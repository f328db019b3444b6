import L2tpns.L2tp.Preservation

/-! # Headers of PPP frames to a session

A frame to a session goes behind the header of its tunnel. `makeppp` writes the header from the
start of a buffer on and copies the payload behind it; `opt_makeppp` writes the same header in
front of a payload that stays where it is, backwards. Both have a twin for the PPPoE sessions. In
a bundle of more than one link the frame is a fragment, with a multilink header.

The two ways send the same bytes and leave the same sequence number
(`L2tpns.Encap.optMakeppp_sends_makeppp`).
-/

namespace L2tpns.Encap

open Avp (Memory readBytes writeBytes ntohs readBytes_length readBytes_append readBytes_congr
  readBytes_getElem? readBytes_writeBytes writeBytes_append writeBytes_prepend
  writeBytes_before writeBytes_beyond writeBytes_inside writeBytes_outside)
open L2tp (Links Fate hdlcHeader setupHeader setupHeader_length codeSess ethPPppSes tunnelsend
  pppoeSessSend putWord putWord_outside hasSequence)
open Server (bytes16 bytes32 pppLcp tunnelIdPppoe)

structure Bundle where
  numOfLinks : Nat
  seqNumT : UInt32
deriving DecidableEq, Repr

/-- The sessions, with the bits of their flags and the format of their multilink headers, and the
bundles. -/
structure State where
  links : Links
  flags : Nat → UInt8
  mssf : Nat → Bool
  bundle : Nat → Bundle
  littleEndian : Bool

/-- `SESSION_PFC`. -/
def sessionPfc : UInt8 := 1

/-- `SESSION_ACFC`. -/
def sessionAcfc : UInt8 := 2

/-- `PPPMP`. -/
def pppMp : Nat := 0x003D

/-- `MP_BEGIN`. -/
def mpBegin : UInt8 := 0x80

/-- `MP_END`. -/
def mpEnd : UInt8 := 0x40

/-- A frame to bundle `bid` is a fragment. -/
def State.isFragment (st : State) (bid : Nat) : Bool :=
  decide (bid ≠ 0 ∧ 1 < (st.bundle bid).numOfLinks)

/-- The bundles after a frame to `bid`. -/
def State.counted (st : State) (bid : Nat) : Nat → Bundle :=
  if st.isFragment bid then
    Function.update st.bundle bid
      { st.bundle bid with seqNumT := (st.bundle bid).seqNumT + 1 }
  else st.bundle

def State.messageType (st : State) (mtype bid : Nat) : Nat :=
  if st.isFragment bid then pppMp else mtype

/-- Flags without options, and the identifiers of the other side. -/
def State.l2tpHeader (st : State) (s t : Nat) (prio : Bool) : List UInt8 :=
  bytes16 (if prio then 0x0102 else 0x0002) ++ bytes16 (st.links.tunnel t).far ++
    bytes16 (st.links.session s).far

/-- The HDLC header, unless it is compressed away. -/
def State.hdlcField (st : State) (s type : Nat) : List UInt8 :=
  if type = pppLcp ∨ st.flags s &&& sessionAcfc = 0 then hdlcHeader else []

/-- The protocol, compressed to one byte where it can be. -/
def State.protocolField (st : State) (s type : Nat) : List UInt8 :=
  if type < 0x100 ∧ st.flags s &&& sessionPfc ≠ 0 then [UInt8.ofNat type] else bytes16 type

/-- Sequence number and bits of a fragment. -/
def mpHeader (mssf : Bool) (seq : UInt32) (mpBits : UInt8) : List UInt8 :=
  if mssf then bytes16 ((seq &&& 0x0FFF) ||| mpBits.toUInt32).toNat
  else (bytes32 seq.toNat).set 0 mpBits

/-- The multilink header, if the frame is a fragment. -/
def State.mpField (st : State) (s bid : Nat) (mpBits : UInt8) : List UInt8 :=
  if st.isFragment bid then mpHeader (st.mssf s) (st.bundle bid).seqNumT mpBits else []

/-- The type of the message, in its first fragment. -/
def State.beginField (st : State) (mtype bid : Nat) (mpBits : UInt8) : List UInt8 :=
  if st.isFragment bid && decide (mpBits &&& mpBegin ≠ 0) then bytes16 mtype else []

/-- Memory, with the pointer that a header is written at. -/
structure Writer where
  memory : Memory
  b : Nat

/-- Write at the pointer and advance it. -/
def Writer.append (w : Writer) (bytes : List UInt8) : Writer :=
  ⟨writeBytes w.memory w.b bytes, w.b + bytes.length⟩

/-- Step back and write there. -/
def Writer.prepend (w : Writer) (bytes : List UInt8) : Writer :=
  ⟨writeBytes w.memory (w.b - bytes.length) bytes, w.b - bytes.length⟩

/-- A number of 16 bits in the order of the host. -/
def hostBytes (littleEndian : Bool) (value : Nat) : List UInt8 :=
  if littleEndian then (bytes16 value).reverse else bytes16 value

/-- The length field of a PPPoE header, as the host reads it without a conversion. -/
def hostLength (littleEndian : Bool) (memory : Memory) (hdr : Nat) : Nat :=
  if littleEndian then (memory (hdr + 1)).toNat * 2 ^ 8 + (memory hdr).toNat
  else ntohs memory hdr

/-- `hdr->length += n`. -/
def growLength (littleEndian : Bool) (memory : Memory) (hdr n : Nat) : Memory :=
  writeBytes memory hdr (hostBytes littleEndian (hostLength littleEndian memory hdr + n))

/-- Write a part of a PPPoE frame and count it in the length field at `hdr`. -/
def Writer.grow (w : Writer) (littleEndian : Bool) (hdr : Nat) (bytes : List UInt8) : Writer :=
  { w.append bytes with
    memory := growLength littleEndian (w.append bytes).memory hdr bytes.length }

/-- What a maker returns, which may be a null pointer, and what it leaves. -/
structure Made where
  frame : Option Nat
  memory : Memory
  bundle : Nat → Bundle

/-- The header of `pppoe_makeppp`. -/
def State.pppoeWriter (st : State) (memory : Memory) (b s mtype bid : Nat) (mpBits : UInt8) :
    Writer :=
  let hdr := b + 14 + 4
  let start := (Writer.mk memory b).append
    (setupHeader st.links.pppoeHwaddr (st.links.session s).srcHwaddr codeSess s ethPPppSes)
  let typed := start.grow st.littleEndian hdr (bytes16 (st.messageType mtype bid))
  if st.isFragment bid then
    (typed.grow st.littleEndian hdr (st.mpField s bid mpBits)).grow st.littleEndian hdr
      (st.beginField mtype bid mpBits)
  else typed

/-- `pppoe_makeppp`. -/
def pppoeMakeppp (st : State) (memory : Memory) (b size : Nat) (p : Option Nat)
    (l s t mtype bid : Nat) (mpBits : UInt8) : Made :=
  if t ≠ tunnelIdPppoe then ⟨none, memory, st.bundle⟩
  else if size < 28 then ⟨none, memory, st.bundle⟩
  else
    let w := st.pppoeWriter memory b s mtype bid mpBits
    if size < w.b - b + l then ⟨none, w.memory, st.counted bid⟩
    else
      match p with
      | some p =>
          ⟨some w.b, (w.grow st.littleEndian (b + 14 + 4) (readBytes w.memory p l)).memory,
            st.counted bid⟩
      | none => ⟨some w.b, w.memory, st.counted bid⟩

/-- `makeppp`. -/
def makeppp (st : State) (memory : Memory) (b size : Nat) (p : Option Nat) (l s t mtype : Nat)
    (prio : Bool) (bid : Nat) (mpBits : UInt8) : Made :=
  if t = tunnelIdPppoe then pppoeMakeppp st memory b size p l s t mtype bid mpBits
  else if size < 16 then ⟨none, memory, st.bundle⟩
  else
    let type := st.messageType mtype bid
    let start := (Writer.mk memory b).append (st.l2tpHeader s t prio)
    let typed := (start.append (st.hdlcField s type)).append (st.protocolField s type)
    let w := (typed.append (st.mpField s bid mpBits)).append (st.beginField mtype bid mpBits)
    if size < w.b - b + l then ⟨none, w.memory, st.counted bid⟩
    else
      match p with
      | some p => ⟨some w.b, (w.append (readBytes w.memory p l)).memory, st.counted bid⟩
      | none => ⟨some w.b, w.memory, st.counted bid⟩

/-- `opt_pppoe_makeppp`. -/
def optPppoeMakeppp (st : State) (memory : Memory) (p l s t mtype bid : Nat) (mpBits : UInt8) :
    Made :=
  if t ≠ tunnelIdPppoe then ⟨none, memory, st.bundle⟩
  else
    let fields := ((Writer.mk memory p).prepend (st.beginField mtype bid mpBits)).prepend
      (st.mpField s bid mpBits)
    let typed := fields.prepend (bytes16 (st.messageType mtype bid))
    let hdrlen := l + (p - typed.b)
    let w := typed.prepend
      (setupHeader st.links.pppoeHwaddr (st.links.session s).srcHwaddr codeSess s ethPPppSes)
    ⟨some w.b, writeBytes w.memory (w.b + 14 + 4) (hostBytes st.littleEndian hdrlen),
      st.counted bid⟩

/-- `opt_makeppp`. -/
def optMakeppp (st : State) (memory : Memory) (p l s t mtype : Nat) (prio : Bool) (bid : Nat)
    (mpBits : UInt8) : Made :=
  if t = tunnelIdPppoe then optPppoeMakeppp st memory p l s t mtype bid mpBits
  else
    let type := st.messageType mtype bid
    let fields := ((Writer.mk memory p).prepend (st.beginField mtype bid mpBits)).prepend
      (st.mpField s bid mpBits)
    let typed := (fields.prepend (st.protocolField s type)).prepend (st.hdlcField s type)
    let w := typed.prepend (st.l2tpHeader s t prio)
    ⟨some w.b, w.memory, st.counted bid⟩

def State.l2tpBytes (st : State) (s t mtype : Nat) (prio : Bool) (bid : Nat) (mpBits : UInt8) :
    List UInt8 :=
  st.l2tpHeader s t prio ++ (st.hdlcField s (st.messageType mtype bid) ++
    (st.protocolField s (st.messageType mtype bid) ++
      (st.mpField s bid mpBits ++ st.beginField mtype bid mpBits)))

/-- The header of a PPPoE frame, without a length. -/
def State.pppoeBytes (st : State) (s mtype bid : Nat) (mpBits : UInt8) : List UInt8 :=
  setupHeader st.links.pppoeHwaddr (st.links.session s).srcHwaddr codeSess s ethPPppSes ++
    (bytes16 (st.messageType mtype bid) ++
      (st.mpField s bid mpBits ++ st.beginField mtype bid mpBits))

variable {st : State} {memory other : Memory} {b size p l s t mtype bid q start : Nat}
  {prio littleEndian : Bool} {mpBits : UInt8} {bytes more : List UInt8} {w : Writer}

@[simp] theorem bytes16_length (n : Nat) : (bytes16 n).length = 2 := rfl

@[simp] theorem bytes32_length (n : Nat) : (bytes32 n).length = 4 := rfl

@[simp] theorem l2tpHeader_length : (st.l2tpHeader s t prio).length = 6 := by
  simp [State.l2tpHeader]

theorem hdlcField_length (type : Nat) : (st.hdlcField s type).length ≤ 2 := by
  rw [State.hdlcField]
  split_ifs <;> simp [hdlcHeader]

theorem protocolField_length (type : Nat) : (st.protocolField s type).length ≤ 2 := by
  rw [State.protocolField]
  split_ifs <;> simp

theorem mpField_length : (st.mpField s bid mpBits).length ≤ 4 := by
  simp only [State.mpField, mpHeader]
  split_ifs <;> simp

theorem beginField_length : (st.beginField mtype bid mpBits).length ≤ 2 := by
  rw [State.beginField]
  split_ifs <;> simp

theorem l2tpBytes_length : (st.l2tpBytes s t mtype prio bid mpBits).length ≤ 16 := by
  have hdlc := @hdlcField_length st s (st.messageType mtype bid)
  have protocol := @protocolField_length st s (st.messageType mtype bid)
  have multilink := @mpField_length st s bid mpBits
  have begins := @beginField_length st mtype bid mpBits
  simp only [State.l2tpBytes, List.length_append, l2tpHeader_length]
  omega

theorem pppoeBytes_length : 20 ≤ (st.pppoeBytes s mtype bid mpBits).length ∧
    (st.pppoeBytes s mtype bid mpBits).length ≤ 28 := by
  have multilink := @mpField_length st s bid mpBits
  have begins := @beginField_length st mtype bid mpBits
  simp only [State.pppoeBytes, List.length_append, setupHeader_length, bytes16_length]
  omega

@[simp] theorem append_b (w : Writer) (bytes : List UInt8) :
    (w.append bytes).b = w.b + bytes.length := rfl

@[simp] theorem prepend_b (w : Writer) (bytes : List UInt8) :
    (w.prepend bytes).b = w.b - bytes.length := rfl

theorem append_append (w : Writer) (bytes more : List UInt8) :
    (w.append bytes).append more = w.append (bytes ++ more) := by
  simp [Writer.append, writeBytes_append, Nat.add_assoc]

theorem prepend_prepend (w : Writer) (bytes more : List UInt8)
    (room : (more ++ bytes).length ≤ w.b) :
    (w.prepend bytes).prepend more = w.prepend (more ++ bytes) := by
  obtain ⟨before, split⟩ := Nat.exists_eq_add_of_le' room
  have first : w.b - bytes.length = before + more.length := by
    rw [split, List.length_append]
    omega
  simp only [Writer.prepend, first, Nat.add_sub_cancel, writeBytes_prepend]
  rw [split, Nat.add_sub_cancel]

theorem append_l2tpBytes (w : Writer) :
    ((((w.append (st.l2tpHeader s t prio)).append
      (st.hdlcField s (st.messageType mtype bid))).append
      (st.protocolField s (st.messageType mtype bid))).append (st.mpField s bid mpBits)).append
      (st.beginField mtype bid mpBits) = w.append (st.l2tpBytes s t mtype prio bid mpBits) := by
  simp only [append_append, List.append_assoc, State.l2tpBytes]

theorem makeppp_header {copy : Option Nat} (tunnel : t ≠ tunnelIdPppoe)
    (made : (makeppp st memory b size copy l s t mtype prio bid mpBits).frame = some q) :
    q = b + (st.l2tpBytes s t mtype prio bid mpBits).length ∧ q + l ≤ b + size ∧
      (makeppp st memory b size copy l s t mtype prio bid mpBits).bundle = st.counted bid ∧
      ∃ payload, (∀ p, copy = some p → (p + l ≤ b ∨ b + size ≤ p) →
          payload = readBytes memory p l) ∧
        (makeppp st memory b size copy l s t mtype prio bid mpBits).memory =
          writeBytes memory b (st.l2tpBytes s t mtype prio bid mpBits ++ payload) := by
  simp only [makeppp, tunnel, ↓reduceIte, append_l2tpBytes] at made ⊢
  split_ifs at made ⊢ with small fits
  have inside : b + (st.l2tpBytes s t mtype prio bid mpBits).length + l ≤ b + size := by
    simp only [Writer.append] at fits
    omega
  cases copy with
  | some p =>
      obtain rfl := Option.some.inj made
      refine ⟨rfl, inside, rfl, _, fun p' same apart => ?_, writeBytes_append memory b _ _⟩
      obtain rfl := Option.some.inj same
      have outside (k : Nat) (small : k < l) : p + k < b ∨
          b + (st.l2tpBytes s t mtype prio bid mpBits).length ≤ p + k := by omega
      exact readBytes_congr fun k small => writeBytes_outside memory (outside k small)
  | none =>
      obtain rfl := Option.some.inj made
      refine ⟨rfl, inside, rfl, [], (nofun), ?_⟩
      rw [List.append_nil]
      rfl

theorem prepend_l2tpBytes (w : Writer) (room : 16 ≤ w.b) :
    ((((w.prepend (st.beginField mtype bid mpBits)).prepend (st.mpField s bid mpBits)).prepend
      (st.protocolField s (st.messageType mtype bid))).prepend
      (st.hdlcField s (st.messageType mtype bid))).prepend (st.l2tpHeader s t prio) =
        w.prepend (st.l2tpBytes s t mtype prio bid mpBits) := by
  have short := @l2tpBytes_length st s t mtype bid prio mpBits
  simp only [State.l2tpBytes, List.length_append] at short
  rw [prepend_prepend w _ _ (by simp only [List.length_append]; omega),
    prepend_prepend w _ _ (by simp only [List.length_append]; omega),
    prepend_prepend w _ _ (by simp only [List.length_append]; omega),
    prepend_prepend w _ _ (by simp only [List.length_append]; omega), State.l2tpBytes]

theorem optMakeppp_header (tunnel : t ≠ tunnelIdPppoe) (room : 28 ≤ p) :
    optMakeppp st memory p l s t mtype prio bid mpBits =
      ⟨some (p - (st.l2tpBytes s t mtype prio bid mpBits).length),
        writeBytes memory (p - (st.l2tpBytes s t mtype prio bid mpBits).length)
          (st.l2tpBytes s t mtype prio bid mpBits), st.counted bid⟩ := by
  have space : 16 ≤ (Writer.mk memory p).b := Nat.le_trans (by decide) room
  simp only [optMakeppp, tunnel, ↓reduceIte, prepend_l2tpBytes _ space]
  rfl

/-- The bytes are in memory, but for the length field. -/
def Agrees (memory : Memory) (start : Nat) (bytes : List UInt8) : Prop :=
  ∀ k byte, bytes[k]? = some byte → k ≠ 18 → k ≠ 19 → memory (start + k) = byte

@[simp] theorem hostBytes_length (littleEndian : Bool) (value : Nat) :
    (hostBytes littleEndian value).length = 2 := by
  rw [hostBytes]
  split_ifs <;> simp

theorem agrees_write (memory : Memory) (start : Nat) (bytes : List UInt8) :
    Agrees (writeBytes memory start bytes) start bytes := by
  intro k byte there _ _
  obtain ⟨inside, rfl⟩ := List.getElem?_eq_some_iff.mp there
  exact writeBytes_inside memory start inside

theorem Agrees.length {field : List UInt8} (agrees : Agrees memory start bytes)
    (two : field.length = 2) : Agrees (writeBytes memory (start + 14 + 4) field) start bytes := by
  intro k byte there low high
  rw [← agrees k byte there low high]
  by_cases early : k < 18
  · exact writeBytes_before _ (by omega)
  · exact writeBytes_beyond _ (by omega)

theorem Agrees.append (agrees : Agrees memory start bytes) (more : List UInt8) :
    Agrees (writeBytes memory (start + bytes.length) more) start (bytes ++ more) := by
  intro k byte there low high
  by_cases first : k < bytes.length
  · rw [List.getElem?_append_left first] at there
    rw [writeBytes_before _ (by omega)]
    exact agrees k byte there low high
  · rw [List.getElem?_append_right (Nat.le_of_not_lt first)] at there
    obtain ⟨inside, rfl⟩ := List.getElem?_eq_some_iff.mp there
    have written := writeBytes_inside memory (start + bytes.length) inside
    rwa [show start + bytes.length + (k - bytes.length) = start + k by omega] at written

theorem agrees_behind {payload : List UInt8}
    (read : readBytes memory (start + bytes.length) l = payload) :
    Agrees (writeBytes memory start bytes) start (bytes ++ payload) := by
  intro k byte there low high
  by_cases first : k < bytes.length
  · rw [List.getElem?_append_left first] at there
    exact agrees_write memory start bytes k byte there low high
  · rw [List.getElem?_append_right (Nat.le_of_not_lt first)] at there
    have found := readBytes_getElem? read there
    rw [writeBytes_beyond _ (by omega), ← found]
    exact congrArg memory (by omega)

/-- The pointer is behind the bytes written since `start`, and nothing else is written. -/
structure Wrote (memory : Memory) (start : Nat) (bytes : List UInt8) (w : Writer) : Prop where
  agrees : Agrees w.memory start bytes
  pointer : w.b = start + bytes.length
  outside : ∀ k, k < start ∨ w.b ≤ k → w.memory k = memory k

theorem Wrote.grow (wrote : Wrote memory start bytes w) (header : 20 ≤ bytes.length)
    (littleEndian : Bool) (more : List UInt8) :
    Wrote memory start (bytes ++ more) (w.grow littleEndian (start + 14 + 4) more) where
  agrees := by
    have appended := wrote.agrees.append more
    rw [← wrote.pointer] at appended
    exact appended.length (hostBytes_length _ _)
  pointer := by
    simp only [Writer.grow, append_b, wrote.pointer, List.length_append]
    omega
  outside := by
    intro k outside
    simp only [Writer.grow, append_b] at outside
    have pointer := wrote.pointer
    simp only [Writer.grow, growLength, Writer.append]
    rw [writeBytes_outside _ (by rw [hostBytes_length]; omega),
      writeBytes_outside _ (by omega)]
    exact wrote.outside k (by omega)

/-- What is sent over PPPoE does not depend on the length field. -/
theorem Agrees.sends {links : Links} {first second : Nat} (whole : 20 ≤ bytes.length)
    (inside : l ≤ bytes.length) (here : Agrees memory first bytes)
    (there : Agrees other second bytes) :
    pppoeSessSend links memory first l t = pppoeSessSend links other second l t := by
  have same : ∀ k, k < bytes.length → k ≠ 18 → k ≠ 19 →
      memory (first + k) = other (second + k) := fun k small low high => by
    rw [here k bytes[k] (List.getElem?_eq_getElem small) low high,
      there k bytes[k] (List.getElem?_eq_getElem small) low high]
  have sid : ntohs memory (first + 16) = ntohs other (second + 16) := by
    rw [ntohs, ntohs, same 16 (by omega) (by omega) (by omega), Nat.add_assoc, Nat.add_assoc,
      same 17 (by omega) (by omega) (by omega)]
  have sent (value : Nat) : readBytes (putWord memory (first + 18) value) first l =
      readBytes (putWord other (second + 18) value) second l := by
    refine List.map_congr_left fun k small => ?_
    have small := List.mem_range.mp small
    by_cases field : k = 18 ∨ k = 19
    · obtain ⟨i, rfl, low⟩ : ∃ i, k = 18 + i ∧ i < (bytes16 value).length := by
        obtain rfl | rfl := field
        exacts [⟨0, rfl, by simp⟩, ⟨1, rfl, by simp⟩]
      rw [putWord, putWord, ← Nat.add_assoc, ← Nat.add_assoc, writeBytes_inside _ _ low,
        writeBytes_inside _ _ low]
    · rw [not_or] at field
      rw [putWord_outside (by omega), putWord_outside (by omega),
        same k (by omega) field.1 field.2]
  simp only [pppoeSessSend, sid, sent]

theorem pppoeWriter_wrote : Wrote memory b (st.pppoeBytes s mtype bid mpBits)
    (st.pppoeWriter memory b s mtype bid mpBits) := by
  have start : Wrote memory b
      (setupHeader st.links.pppoeHwaddr (st.links.session s).srcHwaddr codeSess s ethPPppSes)
      ((Writer.mk memory b).append (setupHeader st.links.pppoeHwaddr
        (st.links.session s).srcHwaddr codeSess s ethPPppSes)) :=
    ⟨agrees_write memory b _, rfl, fun k outside => writeBytes_outside memory outside⟩
  have typed := start.grow (Nat.le_of_eq (setupHeader_length _ _ _ _ _).symm) st.littleEndian
    (bytes16 (st.messageType mtype bid))
  rw [State.pppoeWriter, State.pppoeBytes, ← List.append_assoc]
  split_ifs with fragment
  · rw [← List.append_assoc]
    refine (typed.grow ?_ st.littleEndian _).grow ?_ st.littleEndian _
    all_goals
      simp only [List.length_append, setupHeader_length]
      omega
  · have none_left : st.mpField s bid mpBits ++ st.beginField mtype bid mpBits = [] := by
      simp [State.mpField, State.beginField, fragment]
    rw [none_left, List.append_nil]
    exact typed

theorem pppoeMakeppp_header {copy : Option Nat}
    (made : (pppoeMakeppp st memory b size copy l s tunnelIdPppoe mtype bid mpBits).frame =
      some q) :
    q = b + (st.pppoeBytes s mtype bid mpBits).length ∧ q + l ≤ b + size ∧
      (pppoeMakeppp st memory b size copy l s tunnelIdPppoe mtype bid mpBits).bundle =
        st.counted bid ∧
      ∃ payload, (∀ p, copy = some p → (p + l ≤ b ∨ b + size ≤ p) →
          payload = readBytes memory p l) ∧
        Agrees (pppoeMakeppp st memory b size copy l s tunnelIdPppoe mtype bid mpBits).memory b
          (st.pppoeBytes s mtype bid mpBits ++ payload) := by
  have wrote := @pppoeWriter_wrote st memory b s mtype bid mpBits
  have header := (@pppoeBytes_length st s mtype bid mpBits).1
  have pointer := wrote.pointer
  simp only [pppoeMakeppp, ne_eq, not_true_eq_false, ↓reduceIte] at made ⊢
  split_ifs at made ⊢ with small fits
  have inside : (st.pppoeWriter memory b s mtype bid mpBits).b + l ≤ b + size := by omega
  cases copy with
  | some p =>
      obtain rfl := Option.some.inj made
      refine ⟨pointer, inside, rfl, _, fun p' same apart => ?_,
        (wrote.grow header st.littleEndian _).agrees⟩
      obtain rfl := Option.some.inj same
      exact readBytes_congr fun k small => wrote.outside _ (by omega)
  | none =>
      obtain rfl := Option.some.inj made
      refine ⟨pointer, inside, rfl, [], nofun, ?_⟩
      rw [List.append_nil]
      exact wrote.agrees

theorem pppoeBytes_single : (st.pppoeBytes s mtype 0 mpBits).length = 22 := by
  have single : st.isFragment 0 = false := by simp [State.isFragment]
  simp [State.pppoeBytes, State.mpField, State.beginField, single, setupHeader_length]

theorem makeppp_made {copy : Option Nat} (large : 28 ≤ size)
    (fits : l + 28 ≤ size ∨ bid = 0 ∧ l + 22 ≤ size) :
    ∃ q, (makeppp st memory b size copy l s t mtype prio bid mpBits).frame = some q := by
  simp only [makeppp, append_l2tpBytes]
  by_cases pppoe : t = tunnelIdPppoe
  · have pointer := (@pppoeWriter_wrote st memory b s mtype bid mpBits).pointer
    have header : (st.pppoeBytes s mtype bid mpBits).length + l ≤ size := by
      have short := (@pppoeBytes_length st s mtype bid mpBits).2
      rcases fits with fits | ⟨rfl, fits⟩
      · omega
      · rw [pppoeBytes_single]
        omega
    rw [if_pos pppoe, pppoeMakeppp, if_neg (not_not.mpr pppoe), if_neg (by omega)]
    dsimp only
    rw [if_neg (by omega)]
    cases copy <;> exact ⟨_, rfl⟩
  · have short := @l2tpBytes_length st s t mtype bid prio mpBits
    rw [if_neg pppoe, if_neg (by omega), append_b, if_neg (by dsimp only; omega)]
    cases copy <;> exact ⟨_, rfl⟩

theorem prepend_pppoeBytes (w : Writer) (room : 28 ≤ w.b) :
    (((w.prepend (st.beginField mtype bid mpBits)).prepend (st.mpField s bid mpBits)).prepend
      (bytes16 (st.messageType mtype bid))).prepend (setupHeader st.links.pppoeHwaddr
        (st.links.session s).srcHwaddr codeSess s ethPPppSes) =
        w.prepend (st.pppoeBytes s mtype bid mpBits) := by
  have short := (@pppoeBytes_length st s mtype bid mpBits).2
  simp only [State.pppoeBytes, List.length_append] at short
  rw [prepend_prepend w _ _ (by simp only [List.length_append]; omega),
    prepend_prepend w _ _ (by simp only [List.length_append]; omega),
    prepend_prepend w _ _ (by simp only [List.length_append]; omega), State.pppoeBytes]

theorem optPppoeMakeppp_header (room : 28 ≤ p) :
    (optPppoeMakeppp st memory p l s tunnelIdPppoe mtype bid mpBits).frame =
        some (p - (st.pppoeBytes s mtype bid mpBits).length) ∧
      (optPppoeMakeppp st memory p l s tunnelIdPppoe mtype bid mpBits).bundle = st.counted bid ∧
      (∀ k, k < p - (st.pppoeBytes s mtype bid mpBits).length ∨ p ≤ k →
        (optPppoeMakeppp st memory p l s tunnelIdPppoe mtype bid mpBits).memory k = memory k) ∧
      Agrees (optPppoeMakeppp st memory p l s tunnelIdPppoe mtype bid mpBits).memory
        (p - (st.pppoeBytes s mtype bid mpBits).length)
        (st.pppoeBytes s mtype bid mpBits ++ readBytes memory p l) := by
  have header := @pppoeBytes_length st s mtype bid mpBits
  have behind : p = p - (st.pppoeBytes s mtype bid mpBits).length +
      (st.pppoeBytes s mtype bid mpBits).length := by omega
  have space : 28 ≤ (Writer.mk memory p).b := room
  simp only [optPppoeMakeppp, ne_eq, not_true_eq_false, ↓reduceIte, prepend_pppoeBytes _ space]
  refine ⟨rfl, trivial, fun k outside => ?_, ?_⟩
  · simp only [Writer.prepend]
    rw [writeBytes_outside _ (by rw [hostBytes_length]; omega),
      writeBytes_outside _ (by omega)]
  · have read := congrArg (fun start => readBytes memory start l) behind.symm
    exact (agrees_behind read).length (hostBytes_length _ _)

theorem l2tpBytes_plain (memory : Memory) (b : Nat) (payload : List UInt8) :
    hasSequence (writeBytes memory b (st.l2tpBytes s t mtype prio bid mpBits ++ payload) b) =
      false := by
  have first : writeBytes memory b (st.l2tpBytes s t mtype prio bid mpBits ++ payload) b =
      if prio then 0x01 else 0x00 := by
    cases prio <;> simp [writeBytes, State.l2tpBytes, State.l2tpHeader, bytes16]
  rw [first]
  cases prio <;> decide

theorem tunnelsend_plain {links : Links} (tunnel : t ≠ tunnelIdPppoe)
    (plain : hasSequence (memory b) = false) :
    tunnelsend links memory b l t =
      if t = 0 then .dropped else if (links.tunnel t).ip = 0 then .dropped
      else .sent (.l2tp (readBytes memory b l)) := by
  simp [tunnelsend, tunnel, plain]

theorem readBytes_shorter {first second n : Nat}
    (same : readBytes memory first n = readBytes other second n) (shorter : l ≤ n) :
    readBytes memory first l = readBytes other second l := by
  obtain ⟨rest, rfl⟩ := Nat.exists_eq_add_of_le shorter
  rw [readBytes_append, readBytes_append] at same
  exact (List.append_inj same (by rw [readBytes_length, readBytes_length])).1

theorem readBytes_header (memory : Memory) (b l : Nat) (bytes : List UInt8) :
    readBytes (writeBytes memory b bytes) b (bytes.length + l) =
      bytes ++ readBytes memory (b + bytes.length) l := by
  have header := readBytes_writeBytes memory b [] bytes []
  rw [List.nil_append, List.append_nil, List.length_nil, Nat.add_zero] at header
  rw [readBytes_append, header]
  congr 1
  exact readBytes_congr fun k _ => writeBytes_beyond memory (by omega)

theorem readBytes_copy (memory : Memory) (b : Nat) (bytes : List UInt8)
    (room : bytes.length ≤ p) :
    readBytes (writeBytes memory b (bytes ++ readBytes memory p l)) b (bytes.length + l) =
      readBytes (writeBytes memory (p - bytes.length) bytes) (p - bytes.length)
        (bytes.length + l) := by
  have copied := readBytes_writeBytes memory b [] (bytes ++ readBytes memory p l) []
  rw [List.nil_append, List.append_nil, List.length_nil, Nat.add_zero, List.length_append,
    readBytes_length] at copied
  rw [copied, readBytes_header, Nat.sub_add_cancel room]

/-- **In-place and copying encapsulation agree.** `opt_makeppp` always returns a frame, which
starts at most 28 bytes in front of the payload, and writes nothing else. Where `makeppp` returns
a frame in a buffer apart from the payload, both have headers of one length, send the same bytes
and leave the bundles the same. -/
theorem optMakeppp_sends_makeppp (st : State) (memory : Memory) (b size p l s t mtype : Nat)
    (prio : Bool) (bid : Nat) (mpBits : UInt8) (room : 28 ≤ p) :
    ∃ start, (optMakeppp st memory p l s t mtype prio bid mpBits).frame = some start ∧
      start ≤ p ∧ p ≤ start + 28 ∧
      (∀ k, k < start ∨ p ≤ k →
        (optMakeppp st memory p l s t mtype prio bid mpBits).memory k = memory k) ∧
      ∀ q, (makeppp st memory b size (some p) l s t mtype prio bid mpBits).frame = some q →
        p + l ≤ b ∨ b + size ≤ p →
        b ≤ q ∧ q - b = p - start ∧
        (makeppp st memory b size (some p) l s t mtype prio bid mpBits).bundle =
          (optMakeppp st memory p l s t mtype prio bid mpBits).bundle ∧
        (t ≠ tunnelIdPppoe →
          readBytes (makeppp st memory b size (some p) l s t mtype prio bid mpBits).memory b
              (q - b + l) =
            readBytes (optMakeppp st memory p l s t mtype prio bid mpBits).memory start
              (p - start + l)) ∧
        tunnelsend st.links
            (makeppp st memory b size (some p) l s t mtype prio bid mpBits).memory b
            ((q - b + l) % 2 ^ 16) t =
          tunnelsend st.links (optMakeppp st memory p l s t mtype prio bid mpBits).memory start
            ((p - start + l) % 2 ^ 16) t := by
  by_cases tunnel : t = tunnelIdPppoe
  · subst tunnel
    obtain ⟨inPlace, counted, outside, sent⟩ :=
      @optPppoeMakeppp_header st memory p l s mtype bid mpBits room
    have header := @pppoeBytes_length st s mtype bid mpBits
    simp only [optMakeppp, makeppp, ↓reduceIte]
    refine ⟨_, inPlace, Nat.sub_le _ _, by omega, outside, fun q made apart => ?_⟩
    obtain ⟨rfl, fits, copied, payload, read, agrees⟩ := pppoeMakeppp_header made
    rw [read p rfl apart] at agrees
    have lengths : (st.pppoeBytes s mtype bid mpBits ++ readBytes memory p l).length =
        (st.pppoeBytes s mtype bid mpBits).length + l := by
      rw [List.length_append, readBytes_length]
    refine ⟨Nat.le_add_right _ _, by omega, copied.trans counted.symm, fun other => ?_, ?_⟩
    · exact absurd rfl other
    · rw [show b + (st.pppoeBytes s mtype bid mpBits).length - b + l =
          p - (p - (st.pppoeBytes s mtype bid mpBits).length) + l by omega]
      simp only [tunnelsend, show tunnelIdPppoe ≠ 0 by decide, ↓reduceIte]
      exact agrees.sends (by omega)
        (Nat.le_trans (Nat.mod_le _ _) (by omega)) sent
  · rw [optMakeppp_header tunnel room]
    have header := @l2tpBytes_length st s t mtype bid prio mpBits
    refine ⟨_, rfl, Nat.sub_le _ _, by omega, fun k outside =>
      writeBytes_outside memory (by omega), fun q made apart => ?_⟩
    obtain ⟨rfl, fits, copied, payload, read, written⟩ := makeppp_header tunnel made
    rw [read p rfl apart] at written
    have same := @readBytes_copy p l memory b (st.l2tpBytes s t mtype prio bid mpBits) (by omega)
    have copies : b + (st.l2tpBytes s t mtype prio bid mpBits).length - b + l =
        (st.l2tpBytes s t mtype prio bid mpBits).length + l := by omega
    have places : p - (p - (st.l2tpBytes s t mtype prio bid mpBits).length) + l =
        (st.l2tpBytes s t mtype prio bid mpBits).length + l := by omega
    rw [written, copies, places]
    have shorter := readBytes_shorter same (Nat.mod_le _ (2 ^ 16))
    rw [tunnelsend_plain tunnel, tunnelsend_plain tunnel, shorter]
    · exact ⟨Nat.le_add_right _ _, by omega, copied, fun _ => same, rfl⟩
    · have plain := @l2tpBytes_plain st s t mtype bid prio mpBits memory
        (p - (st.l2tpBytes s t mtype prio bid mpBits).length) []
      rwa [List.append_nil] at plain
    · exact l2tpBytes_plain memory b _

/-- Session 2 of a bundle of two links. -/
def bonded (mssf : Bool) : State where
  links := L2tp.linked
  flags := fun _ => 0
  mssf := fun _ => mssf
  bundle := fun _ => ⟨2, 0x12345⟩
  littleEndian := true

/-- A whole datagram of three bytes, in one fragment. -/
theorem optMakeppp_sends_makeppp_bonded :
    ∃ start,
      (optMakeppp (bonded false) (fun _ => 7) 64 3 2 2 0x21 false 1 0xC0).frame = some start ∧
      readBytes (makeppp (bonded false) (fun _ => 7) 100 50 (some 64) 3 2 2 0x21 false 1
          0xC0).memory 100 19 =
        readBytes (optMakeppp (bonded false) (fun _ => 7) 64 3 2 2 0x21 false 1 0xC0).memory
          start (64 - start + 3) := by
  obtain ⟨start, frame, _, _, _, same⟩ := optMakeppp_sends_makeppp (bonded false) (fun _ => 7)
    100 50 64 3 2 2 0x21 false 1 0xC0 (by simp)
  obtain ⟨_, _, _, bytes, _⟩ := same 116 rfl (by simp)
  exact ⟨start, frame, bytes (by decide)⟩

end L2tpns.Encap
