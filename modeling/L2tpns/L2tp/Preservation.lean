import L2tpns.Avp.Memory
import L2tpns.L2tp.Forward

/-! # What forwarding preserves

A forwarded message carries the PPP frame that was received, for a tunnel exactly if the length
that the received packet has for itself is not more than what was received, and for a PPPoE peer
exactly if besides no offset is given, nothing follows the frame, and the frame does not begin with
what would be taken for an HDLC header once more (`L2tpns.L2tp.frames_kept_iff`).
-/

namespace L2tpns.L2tp

open Avp
open Server (bytes16 tunnelIdPppoe)

/-- Nothing follows the frame of a payload. If the frame begins like an HDLC header, what is left
of the payload and what follows without two such headers is the frame, perhaps with its protocol
in two bytes. -/
def FrameAlone (payload behind : List UInt8) : Prop :=
  if (dropHdlc payload).take 2 = hdlcHeader then
    dropHdlc (dropHdlc (payload ++ behind)) = dropHdlc payload ∨
      dropHdlc (dropHdlc (payload ++ behind)) = 0 :: dropHdlc payload
  else behind = []

/-- The other side of the link of session `s` is a PPPoE session. -/
def Links.toPppoe (links : Links) (s : Nat) : Prop :=
  (links.session (links.session s).forwardtosession).tunnel = tunnelIdPppoe

/-- The length that a packet has for itself is not more than what was received. To a PPPoE peer, no
offset is given, and nothing follows the frame. -/
def Sound (links : Links) : Input → Prop
  | .l2tp packet => ∀ header, readHeader packet.memory packet.start packet.size = some header →
      let length := messageLength packet.memory packet.start packet.size
      length ≤ packet.size ∧ (links.toPppoe header.s →
        hasOffset (packet.memory packet.start) = false ∧
          FrameAlone (readBytes packet.memory header.p header.l)
            (readBytes packet.memory (packet.start + length) (packet.size - length)))
  | .pppoe packet => 14 + 6 + ntohs packet.memory (packet.start + 18) ≤ packet.size

section Frame

variable {data payload behind : List UInt8} {frame : Frame}

theorem dropHdlc_of_ne (other : data.take 2 ≠ hdlcHeader) : dropHdlc data = data :=
  if_neg fun hdlc => other hdlc.2

theorem dropHdlc_length (data : List UInt8) :
    (dropHdlc data).length ≤ data.length ∧ data.length ≤ (dropHdlc data).length + 2 := by
  rw [dropHdlc]
  split
  · rw [List.length_drop]
    omega
  · omega

theorem dropHdlc_append (whole : 2 ≤ (dropHdlc payload).length)
    (plain : (dropHdlc payload).take 2 ≠ hdlcHeader) (behind : List UInt8) :
    dropHdlc (payload ++ behind) = dropHdlc payload ++ behind := by
  by_cases hdlc : 2 < payload.length ∧ payload.take 2 = hdlcHeader
  · have head : (payload ++ behind).take 2 = hdlcHeader := by
      rw [List.take_append_of_le_length (by omega), hdlc.2]
    have longer : 2 < (payload ++ behind).length := by
      rw [List.length_append]
      omega
    rw [dropHdlc, if_pos ⟨longer, head⟩, dropHdlc, if_pos hdlc,
      List.drop_append_of_le_length (by omega)]
  · have same : dropHdlc payload = payload := if_neg hdlc
    rw [same] at whole plain ⊢
    refine dropHdlc_of_ne ?_
    rwa [List.take_append_of_le_length whole]

theorem readProto_length (read : readProto data = some frame) :
    2 ≤ data.length ∧ frame.information.length + 1 ≤ data.length ∧
      data.length ≤ frame.information.length + 2 := by
  match data, read with
  | first :: second :: rest, read =>
      rw [readProto] at read
      split at read <;> obtain rfl := Option.some.inj read <;> simp

theorem readProto_append (read : readProto data = some frame) (behind : List UInt8) :
    readProto (data ++ behind) =
      some { frame with information := frame.information ++ behind } := by
  match data, read with
  | first :: second :: rest, read =>
      simp only [List.cons_append, readProto] at read ⊢
      split at read <;> obtain rfl := Option.some.inj read <;> simp [*]

theorem readProto_compressed {first : UInt8} {rest : List UInt8} (odd : first &&& 1 ≠ 0)
    (some : rest ≠ []) :
    readProto data = .some ⟨first.toNat, rest⟩ ↔
      data = first :: rest ∨ data = 0 :: first :: rest := by
  constructor
  · intro read
    match data, read with
    | high :: low :: others, read =>
        rw [readProto] at read
        split at read
        · obtain ⟨proto, same⟩ := Frame.mk.inj (Option.some.inj read)
          exact .inl (by rw [same, UInt8.toNat_inj.mp proto])
        · obtain ⟨proto, same⟩ := Frame.mk.inj (Option.some.inj read)
          have small := first.toNat_lt
          have zero : high = 0 := UInt8.toNat_inj.mp (by simp only [UInt8.toNat_zero]; omega)
          subst zero
          have equal : low = first := UInt8.toNat_inj.mp (by simpa using proto)
          exact .inr (by rw [same, equal])
  · rintro (rfl | rfl)
    · obtain ⟨second, others, rfl⟩ := List.exists_cons_of_ne_nil some
      simp [readProto, odd]
    · simp [readProto]

theorem frameAlone_iff (read : readFrame payload = some frame) (behind : List UInt8) :
    readFrame (dropHdlc (payload ++ behind)) = some frame ↔ FrameAlone payload behind := by
  rw [readFrame] at read ⊢
  rw [FrameAlone]
  have long := readProto_length read
  by_cases hdlc : (dropHdlc payload).take 2 = hdlcHeader
  · rw [if_pos hdlc]
    obtain ⟨rest, same⟩ : ∃ rest, dropHdlc payload = 0xFF :: 0x03 :: rest := by
      refine ⟨(dropHdlc payload).drop 2, ?_⟩
      rw [← List.take_append_drop 2 (dropHdlc payload), hdlc]
      simp [hdlcHeader]
    have compressed (data : List UInt8) :
        readProto data = some ⟨UInt8.toNat 0xFF, 0x03 :: rest⟩ ↔
          data = 0xFF :: 0x03 :: rest ∨ data = 0 :: 0xFF :: 0x03 :: rest :=
      readProto_compressed (by decide) (by simp)
    rw [same] at read ⊢
    obtain rfl := Option.some.inj (read.symm.trans ((compressed _).mpr (.inl rfl)))
    exact compressed _
  · rw [if_neg hdlc, dropHdlc_append (by omega) hdlc]
    have again : dropHdlc (dropHdlc payload ++ behind) = dropHdlc payload ++ behind := by
      refine dropHdlc_of_ne ?_
      rwa [List.take_append_of_le_length (by omega)]
    rw [again, readProto_append read]
    constructor
    · intro same
      have information := congrArg Frame.information (Option.some.inj same)
      simpa using information
    · rintro rfl
      simp

theorem readFrame_offset {offset pad : List UInt8} (read : readFrame payload = some frame)
    (two : offset.length = 2) (skipped : ntohs (contents offset) 0 = pad.length) :
    readFrame (dropHdlc (offset ++ pad ++ payload ++ behind)) ≠ some frame := by
  intro same
  have known := readProto_length read
  have found := readProto_length same
  have drops := dropHdlc_length payload
  have first := dropHdlc_length (offset ++ pad ++ payload ++ behind)
  have second := dropHdlc_length (dropHdlc (offset ++ pad ++ payload ++ behind))
  simp only [List.length_append, two] at first
  by_cases hdlc : offset = hdlcHeader
  · have far : pad.length = 0xFF03 := by
      rw [← skipped, hdlc]
      rfl
    omega
  · have plain : (offset ++ pad ++ payload ++ behind).take 2 ≠ hdlcHeader := by
      rwa [List.append_assoc, List.append_assoc, List.take_append_of_le_length (by omega),
        List.take_of_length_le (by omega)]
    rw [dropHdlc_of_ne plain, dropHdlc_of_ne plain] at found
    simp only [List.length_append, two] at found
    omega
end Frame

section Memory

variable {memory other : Memory} {b n k : Nat}

theorem contents_readBytes (inside : k < n) :
    contents (readBytes memory b n) k = memory (b + k) := by
  simp [contents, readBytes, inside]

theorem ntohs_contents (inside : k + 1 < n) :
    ntohs (contents (readBytes memory b n)) k = ntohs memory (b + k) := by
  rw [ntohs, ntohs, contents_readBytes (by omega), contents_readBytes inside, Nat.add_assoc]

theorem readBytes_contents {l : Nat} (inside : k + l ≤ n) :
    readBytes (contents (readBytes memory b n)) k l = readBytes memory (b + k) l := by
  unfold readBytes
  apply List.map_congr_left
  intro i member
  have below := List.mem_range.mp member
  rw [← readBytes, contents_readBytes (by omega), Nat.add_assoc]

/-- The frame of an L2TP data message of `n` bytes. -/
theorem l2tpFrame_readBytes (long : 6 ≤ n) (data : isControl (memory b) = false)
    (version : memory (b + 1) &&& 0x0F = 2)
    (fits : payloadAt memory b ≤ b + messageLength memory b n) :
    l2tpFrame (readBytes memory b n) =
      if n < messageLength memory b n then none
      else readFrame (readBytes memory (payloadAt memory b)
        (b + messageLength memory b n - payloadAt memory b)) := by
  have flags : contents (readBytes memory b n) 0 = memory b := contents_readBytes (by omega)
  have second : contents (readBytes memory b n) 1 = memory (b + 1) := contents_readBytes (by omega)
  have length : messageLength (contents (readBytes memory b n)) 0 n = messageLength memory b n := by
    rw [messageLength, messageLength, flags, Nat.zero_add, ntohs_contents (by omega)]
  simp only [l2tpFrame, readBytes_length, Nat.not_lt.mpr long, flags, data, second, version, length,
    Bool.false_eq_true, ↓reduceIte, ne_eq, not_true_eq_false]
  by_cases outside : n < messageLength memory b n
  · rw [if_pos outside, if_pos outside]
  have ids : idsAt memory b = b + idsAt (contents (readBytes memory b n)) 0 := by
    rw [idsAt, idsAt, flags]
    split <;> omega
  have sequence : sequenceEnd memory b = b + sequenceEnd (contents (readBytes memory b n)) 0 := by
    rw [sequenceEnd, sequenceEnd, flags, ids]
    split <;> omega
  have payload : payloadAt memory b = b + payloadAt (contents (readBytes memory b n)) 0 := by
    simp only [payloadAt, flags]
    split
    case isTrue offset =>
      simp only [payloadAt, offset, ↓reduceIte] at fits
      rw [ntohs_contents (by omega), ← sequence, sequence]
      omega
    case isFalse => exact sequence
  rw [if_neg outside, if_neg outside, if_neg (by omega), readBytes_contents (by omega), ← payload]
  congr 2
  omega

theorem pppoeFrame_readBytes (version : memory (b + 14) = 0x11) :
    pppoeFrame (readBytes memory b n) =
      if n < 14 + 6 + ntohs memory (b + 18) then none
      else readFrame (readBytes memory (b + (14 + 6)) (ntohs memory (b + 18))) := by
  by_cases short : n < 14 + 6
  · rw [pppoeFrame, readBytes_length, if_pos short, if_pos (by omega)]
  have first : contents (readBytes memory b n) 14 = 0x11 := by
    rw [contents_readBytes (by omega), version]
  have length : ntohs (contents (readBytes memory b n)) 18 = ntohs memory (b + 18) :=
    ntohs_contents (by omega)
  simp only [pppoeFrame, readBytes_length, short, first, length, ↓reduceIte]
  by_cases outside : n < 14 + 6 + ntohs memory (b + 18)
  · rw [if_pos outside, if_pos outside]
    decide
  · rw [if_neg outside, if_neg outside, readBytes_contents (by omega)]
    simp

end Memory

section Header

variable {links : Links} {memory other : Memory} {buf p value k : Nat} {message : Message}

theorem putWord_outside (outside : k < p ∨ p + 2 ≤ k) : putWord memory p value k = memory k := by
  rw [putWord]
  rcases outside with before | beyond
  · exact writeBytes_before memory before
  · exact writeBytes_beyond memory (by simpa [bytes16] using beyond)

theorem ntohs_putWord (small : value < 2 ^ 16) : ntohs (putWord memory p value) p = value := by
  have high := @writeBytes_inside memory p (bytes16 value) 0 (by simp [bytes16])
  have low := @writeBytes_inside memory p (bytes16 value) 1 (by simp [bytes16])
  simp only [Nat.add_zero, bytes16, List.getElem_cons_zero, List.getElem_cons_succ] at high low
  rw [putWord, ntohs, bytes16, high, low, UInt8.toNat_ofNat', UInt8.toNat_ofNat']
  omega

/-- Nothing but the tunnel, the session and the sequence numbers of the header at `buf` is
changed. -/
def Readdressed (buf : Nat) (memory other : Memory) : Prop :=
  ∀ k, k < idsAt memory buf ∨ sequenceEnd memory buf ≤ k → other k = memory k

theorem Readdressed.putWord (same : Readdressed buf memory other) (from_ids : idsAt memory buf ≤ p)
    (to_end : p + 2 ≤ sequenceEnd memory buf) (value : Nat) :
    Readdressed buf memory (putWord other p value) := by
  intro k outside
  rw [putWord_outside (by omega)]
  exact same k outside

theorem Readdressed.flags (same : Readdressed buf memory other) : other buf = memory buf := by
  have ids := @idsAt_le memory buf
  exact same buf (by omega)

theorem Readdressed.ids (same : Readdressed buf memory other) :
    idsAt other buf = idsAt memory buf := by
  rw [idsAt, idsAt, same.flags]

theorem Readdressed.sequence (same : Readdressed buf memory other) :
    sequenceEnd other buf = sequenceEnd memory buf := by
  rw [sequenceEnd, sequenceEnd, same.flags, same.ids]

theorem Readdressed.trans {third : Memory} (first : Readdressed buf memory other)
    (second : Readdressed buf other third) : Readdressed buf memory third := by
  intro k outside
  rw [second k (by rwa [first.ids, first.sequence]), first k outside]

theorem Readdressed.length (same : Readdressed buf memory other) (len : Nat) :
    messageLength other buf len = messageLength memory buf len := by
  rw [messageLength, messageLength, same.flags]
  split
  case isTrue given =>
    have ids : idsAt memory buf = buf + 4 := if_pos given
    rw [ntohs, ntohs, same (buf + 2) (by omega), same (buf + 2 + 1) (by omega)]
  case isFalse => rfl

theorem Readdressed.payload (same : Readdressed buf memory other) :
    payloadAt other buf = payloadAt memory buf := by
  simp only [payloadAt, same.flags, same.sequence]
  rw [ntohs, ntohs, same _ (by omega), same _ (by omega)]

theorem Readdressed.readBytes (same : Readdressed buf memory other)
    (behind : sequenceEnd memory buf ≤ p) (n : Nat) :
    Avp.readBytes other p n = Avp.readBytes memory p n :=
  readBytes_congr fun k _ => same (p + k) (by omega)

theorem sequenceEnd_ids (memory : Memory) (buf : Nat) :
    idsAt memory buf + 4 ≤ sequenceEnd memory buf ∧
      (hasSequence (memory buf) → idsAt memory buf + 8 = sequenceEnd memory buf) := by
  rw [sequenceEnd]
  split <;> simp_all

theorem rewriteHeader_readdressed (links : Links) (memory : Memory) (buf t s : Nat) :
    Readdressed buf memory (rewriteHeader links memory buf t s) := by
  have ends := sequenceEnd_ids memory buf
  have same : Readdressed buf memory memory := fun _ _ => rfl
  have addressed := (same.putWord (Nat.le_refl _) (by omega) (links.tunnel t).far).putWord
    (p := idsAt memory buf + 2) (by omega) (by omega) (links.session s).far
  rw [rewriteHeader]
  split
  case isTrue sequenced =>
    have ends := ends.2 sequenced
    exact (addressed.putWord (by omega) (by omega) _).putWord (by omega) (by omega) _
  case isFalse => exact addressed

theorem tunnelsend_l2tp {l t : Nat} (remote : t ≠ tunnelIdPppoe)
    (sent : tunnelsend links memory buf l t = .sent message) :
    ∃ other, Readdressed buf memory other ∧ message = .l2tp (Avp.readBytes other buf l) := by
  simp only [tunnelsend, remote, ↓reduceIte] at sent
  split_ifs at sent with _ _ sequenced length
  · obtain rfl := Fate.sent.inj sent
    have ends := (sequenceEnd_ids memory buf).2 sequenced
    have ids : idsAt memory buf = buf + 4 := if_pos length
    have same : Readdressed buf memory memory := fun _ _ => rfl
    exact ⟨_, same.putWord (by omega) (by omega) _, rfl⟩
  · obtain rfl := Fate.sent.inj sent
    have ends := (sequenceEnd_ids memory buf).2 sequenced
    have ids : idsAt memory buf = buf + 2 := if_neg length
    have same : Readdressed buf memory memory := fun _ _ => rfl
    exact ⟨_, same.putWord (by omega) (by omega) _, rfl⟩
  · obtain rfl := Fate.sent.inj sent
    exact ⟨memory, fun _ _ => rfl, rfl⟩

end Header

section Forwarders

variable {links : Links} {memory other : Memory} {buf n t sess pack size : Nat} {header : Header}
  {frame : Frame} {message : Message}

/-- A packet that is accepted carries the frame that is read, if its length is not more than what
was received. -/
theorem received_l2tp (accepted : readHeader memory buf n = some header)
    (data : isControl (memory buf) = false)
    (read : readFrame (readBytes memory header.p header.l) = some frame) :
    l2tpFrame (readBytes memory buf n) =
      if n < messageLength memory buf n then none else some frame := by
  obtain ⟨long, version, fits⟩ := readHeader_accepts accepted
  obtain ⟨payload, ends⟩ := readHeader_payload accepted
  have length : buf + messageLength memory buf n - payloadAt memory buf = header.l := by omega
  rw [l2tpFrame_readBytes long data version fits, ← payload, ← ends, Nat.add_sub_cancel_left, read]

theorem readdressed_l2tp (accepted : readHeader memory buf n = some header)
    (data : isControl (memory buf) = false) (same : Readdressed buf memory other) :
    l2tpFrame (readBytes other buf n) = l2tpFrame (readBytes memory buf n) := by
  obtain ⟨long, version, fits⟩ := readHeader_accepts accepted
  have ids := @idsAt_le memory buf
  have second : other (buf + 1) = memory (buf + 1) := same (buf + 1) (by omega)
  have moved : payloadAt other buf ≤ buf + messageLength other buf n := by
    rwa [same.payload, same.length]
  rw [l2tpFrame_readBytes long data version fits,
    l2tpFrame_readBytes long (by rwa [same.flags]) (by rwa [second]) moved, same.payload,
    same.length, same.readBytes sequenceEnd_payload]

theorem dropHdlc_readBytes (memory : Memory) (p l : Nat) :
    dropHdlc (readBytes memory p l) =
      if 2 < l ∧ readBytes memory p 2 = hdlcHeader then readBytes memory (p + 2) (l - 2)
      else readBytes memory p l := by
  have head (longer : 2 < l) : (readBytes memory p l).take 2 = readBytes memory p 2 := by
    obtain ⟨more, rfl⟩ := Nat.exists_eq_add_of_lt longer
    rw [Nat.add_assoc, readBytes_append]
    exact List.take_left' (readBytes_length ..)
  rw [dropHdlc, readBytes_length, readBytes_drop]
  by_cases longer : 2 < l
  · rw [head longer]
  · rw [if_neg fun hdlc => longer hdlc.1, if_neg fun hdlc => longer hdlc.1]

/-- A PPPoE packet is sent with the length of its frame, if that is not too short. -/
theorem pppoeSessSend_frame {l : Nat} (small : l < 2 ^ 16) (version : memory (pack + 14) = 0x11)
    (sent : pppoeSessSend links memory pack l t = .sent message) :
    14 + 6 + 3 ≤ l ∧
      message.frame = readFrame (readBytes memory (pack + (14 + 6)) (l - (14 + 6))) := by
  simp only [pppoeSessSend] at sent
  split_ifs at sent with _ _ short
  obtain rfl := Fate.sent.inj sent
  have length := @ntohs_putWord memory (pack + 18) (l - (14 + 6)) (by omega)
  have kept : putWord memory (pack + 18) (l - (14 + 6)) (pack + 14) = 0x11 := by
    rw [putWord_outside (by omega), version]
  have frame : readBytes (putWord memory (pack + 18) (l - (14 + 6))) (pack + (14 + 6))
      (l - (14 + 6)) = readBytes memory (pack + (14 + 6)) (l - (14 + 6)) :=
    readBytes_congr fun k _ => putWord_outside (by omega)
  refine ⟨by omega, ?_⟩
  rw [Message.frame_pppoe, pppoeFrame_readBytes kept, length, if_neg (by omega), frame]

theorem setupHeader_length (src dst : Vector UInt8 6) (code : UInt8) (sid hProto : Nat) :
    (setupHeader src dst code sid hProto).length = 14 + 6 := by
  simp [setupHeader, bytes16]

theorem setupHeader_version (src dst : Vector UInt8 6) (code : UInt8) (sid hProto : Nat) :
    (setupHeader src dst code sid hProto)[14]? = some 0x11 := by
  simp [setupHeader, bytes16]

theorem afterHeader_eq (memory : Memory) (pack size : Nat) :
    afterHeader (memory pack) size =
      (size + 2 ^ 16 - (sequenceEnd memory pack - pack)) % 2 ^ 16 := by
  have header : sequenceEnd memory pack - pack =
      2 + (if hasLength (memory pack) then 2 else 0) + 4 +
        if hasSequence (memory pack) then 4 else 0 := by
    rw [sequenceEnd, idsAt]
    split_ifs <;> omega
  rw [afterHeader, header]

theorem pppoeSessSend_behind {src dst : Vector UInt8 6} {code : UInt8} {sid hProto p l : Nat}
    (room : 14 + 6 ≤ p) (small : l < 2 ^ 16)
    (sent : pppoeSessSend links
      (writeBytes memory (p - (14 + 6)) (setupHeader src dst code sid hProto)) (p - (14 + 6))
      ((l + (14 + 6)) % 2 ^ 16) t = .sent message) :
    3 ≤ l ∧ l + (14 + 6) < 2 ^ 16 ∧ message.frame = readFrame (readBytes memory p l) := by
  have size := setupHeader_length src dst code sid hProto
  have version : writeBytes memory (p - (14 + 6)) (setupHeader src dst code sid hProto)
      (p - (14 + 6) + 14) = 0x11 := by
    rw [writeBytes_inside memory _ (by omega)]
    exact (List.getElem_eq_iff _).mpr (setupHeader_version src dst code sid hProto)
  obtain ⟨long, carried⟩ := pppoeSessSend_frame (Nat.mod_lt _ (by simp)) version sent
  have whole : (l + (14 + 6)) % 2 ^ 16 = l + (14 + 6) := by omega
  have frame : readBytes
      (writeBytes memory (p - (14 + 6)) (setupHeader src dst code sid hProto)) p l =
      readBytes memory p l :=
    readBytes_congr fun k _ => writeBytes_beyond memory (by omega)
  rw [whole, Nat.sub_add_cancel room, Nat.add_sub_cancel, frame] at carried
  exact ⟨by omega, by omega, carried⟩

theorem tunnelsend_pppoe {l : Nat} :
    tunnelsend links memory buf l tunnelIdPppoe =
      pppoeSessSend links memory buf l tunnelIdPppoe := by
  simp [tunnelsend, tunnelIdPppoe]

theorem pppoeForwardtoSessionPppoe_frame (room : 20 ≤ pack) (small : size < 2 ^ 16)
    (peer : links.toPppoe sess)
    (sent : pppoeForwardtoSessionPppoe links memory pack size sess = .sent message) :
    sequenceEnd memory pack ≤ pack + size ∧
      message.frame = readFrame (dropHdlc (readBytes memory (sequenceEnd memory pack)
        (pack + size - sequenceEnd memory pack))) := by
  have ends := @sequenceEnd_le memory pack
  have same := rewriteHeader_readdressed links memory pack tunnelIdPppoe
    (links.session sess).forwardtosession
  rw [Links.toPppoe] at peer
  simp only [pppoeForwardtoSessionPppoe, peer, afterHeader_eq, tunnelsend_pppoe,
    same.readBytes (Nat.le_refl _), decide_eq_true_eq] at sent
  generalize after : (size + 2 ^ 16 - (sequenceEnd memory pack - pack)) % 2 ^ 16 = lpppoe at sent
  have narrow : lpppoe < 2 ^ 16 := after ▸ Nat.mod_lt _ (by simp)
  by_cases hdlc : 2 < lpppoe ∧ readBytes memory (sequenceEnd memory pack) 2 = hdlcHeader
  · simp only [hdlc, and_self, ↓reduceIte] at sent
    obtain ⟨long, whole, carried⟩ := pppoeSessSend_behind (by omega) (by omega) sent
    have exact_size : lpppoe = pack + size - sequenceEnd memory pack := by omega
    rw [← exact_size, dropHdlc_readBytes, if_pos hdlc, carried, same.readBytes (by omega)]
    exact ⟨by omega, rfl⟩
  · simp only [hdlc, ↓reduceIte] at sent
    obtain ⟨long, whole, carried⟩ := pppoeSessSend_behind (by omega) narrow sent
    have exact_size : lpppoe = pack + size - sequenceEnd memory pack := by omega
    rw [← exact_size, dropHdlc_readBytes, if_neg hdlc, carried, same.readBytes (Nat.le_refl _)]
    exact ⟨by omega, rfl⟩

theorem after_header (accepted : readHeader memory pack size = some header)
    (inside : messageLength memory pack size ≤ size) :
    readBytes memory (sequenceEnd memory pack) (pack + size - sequenceEnd memory pack) =
      readBytes memory (sequenceEnd memory pack)
          (payloadAt memory pack - sequenceEnd memory pack) ++
        readBytes memory header.p header.l ++
        readBytes memory (pack + messageLength memory pack size)
          (size - messageLength memory pack size) := by
  obtain ⟨payload, ends⟩ := readHeader_payload accepted
  have sequence := @sequenceEnd_payload memory pack
  have first : sequenceEnd memory pack + (payloadAt memory pack - sequenceEnd memory pack) =
      header.p := by omega
  have parts : pack + size - sequenceEnd memory pack =
      payloadAt memory pack - sequenceEnd memory pack + header.l +
        (size - messageLength memory pack size) := by omega
  rw [parts, readBytes_append, readBytes_append, first, ← Nat.add_assoc, first, ends]

/-- The frame of a message reaches a PPPoE peer exactly if there is no offset and the frame is
alone. -/
theorem pppoe_frame_iff (accepted : readHeader memory pack size = some header)
    (read : readFrame (readBytes memory header.p header.l) = some frame)
    (inside : messageLength memory pack size ≤ size) :
    readFrame (dropHdlc (readBytes memory (sequenceEnd memory pack)
        (pack + size - sequenceEnd memory pack))) = some frame ↔
      hasOffset (memory pack) = false ∧ FrameAlone (readBytes memory header.p header.l)
        (readBytes memory (pack + messageLength memory pack size)
          (size - messageLength memory pack size)) := by
  rw [after_header accepted inside]
  by_cases offset : hasOffset (memory pack) = true
  · have at_payload : payloadAt memory pack - sequenceEnd memory pack =
        2 + ntohs memory (sequenceEnd memory pack) := by
      simp only [payloadAt, offset, ↓reduceIte]
      omega
    refine iff_of_false ?_ fun sound => absurd offset (by simp [sound.1])
    rw [at_payload, readBytes_append]
    refine readFrame_offset read (readBytes_length ..) ?_
    rw [ntohs_contents (by omega), readBytes_length, Nat.add_zero]
  · rw [Bool.not_eq_true] at offset
    have at_payload : payloadAt memory pack - sequenceEnd memory pack = 0 := by
      simp [payloadAt, offset]
    rw [at_payload, and_iff_right offset]
    exact frameAlone_iff read _

theorem plainHeader_payload (plain : memory buf = 0) : payloadAt memory buf = buf + 6 := by
  simp [payloadAt, sequenceEnd, idsAt, plain, hasOffset, hasSequence, hasLength]

theorem tunnelsend_behind {p l far id : Nat} (room : 6 ≤ p) (small : l + 6 < 2 ^ 16)
    (remote : t ≠ tunnelIdPppoe)
    (sent : tunnelsend links
      (putWord (putWord (putWord memory (p - 6) 0x0002) (p - 6 + 2) far) (p - 6 + 4) id) (p - 6)
      (l + 6) t = .sent message) :
    message.frame = readFrame (readBytes memory p l) := by
  generalize made : putWord (putWord (putWord memory (p - 6) 0x0002) (p - 6 + 2) far) (p - 6 + 4)
    id = header at sent
  have behind (k : Nat) (data : p ≤ k) : header k = memory k := by
    rw [← made, putWord_outside (by omega), putWord_outside (by omega), putWord_outside (by omega)]
  have first : header (p - 6) = 0 := by
    rw [← made, putWord_outside (by omega), putWord_outside (by omega)]
    exact writeBytes_inside memory _ (i := 0) (by simp [bytes16])
  have second : header (p - 6 + 1) = 2 := by
    rw [← made, putWord_outside (by omega), putWord_outside (by omega)]
    exact writeBytes_inside memory _ (i := 1) (by simp [bytes16])
  obtain ⟨other, same, rfl⟩ := tunnelsend_l2tp remote sent
  have ids := @idsAt_le header (p - 6)
  have payload : payloadAt other (p - 6) = p := by
    rw [same.payload, plainHeader_payload first, Nat.sub_add_cancel room]
  have length : messageLength other (p - 6) (l + 6) = l + 6 := by
    rw [same.length, messageLength, first, if_neg (by decide), Nat.mod_eq_of_lt small]
  have data : isControl (other (p - 6)) = false := by
    rw [same.flags, first]
    rfl
  have version : other (p - 6 + 1) &&& 0x0F = 2 := by
    rw [same _ (by omega), second]
    rfl
  have frame : readBytes other p l = readBytes memory p l := by
    have sequence := @sequenceEnd_payload header (p - 6)
    rw [same.readBytes (by rwa [← same.payload, payload] at sequence)]
    exact readBytes_congr fun k _ => behind _ (by omega)
  have count : p - 6 + (l + 6) - p = l := by omega
  rw [Message.frame_l2tp, l2tpFrame_readBytes (by omega) data version (by omega), payload, length,
    if_neg (by omega), count, frame]

theorem pppoeForwardtoSessionRmlns_frame
    (sent : pppoeForwardtoSessionRmlns links memory pack sess = .sent message)
    (small : ntohs memory (pack + 18) + 6 < 2 ^ 16) :
    message.frame = readFrame (readBytes memory (pack + (14 + 6)) (ntohs memory (pack + 18))) := by
  simp only [pppoeForwardtoSessionRmlns, Nat.mod_eq_of_lt small] at sent
  split_ifs at sent with _ _ remote
  refine tunnelsend_behind (by omega) small ?_ sent
  intro peer
  simp [peer, links.pppoe_local] at remote

end Forwarders

section Input

variable {links : Links} {packet : Packet} {message : Message}

theorem processudp_sent (sent : processudp links packet = .sent message) :
    ∃ header frame, readHeader packet.memory packet.start packet.size = some header ∧
      isControl (packet.memory packet.start) = false ∧
      readFrame (readBytes packet.memory header.p header.l) = some frame ∧
      lacSessionForward links packet.memory packet.start packet.size header.s frame.proto =
        .sent message := by
  rw [processudp] at sent
  cases accepted : readHeader packet.memory packet.start packet.size with
  | none => simp [accepted] at sent
  | some header =>
      by_cases control : isControl (packet.memory packet.start) = true
      · simp [accepted, control] at sent
      rw [Bool.not_eq_true] at control
      simp only [accepted, control, Bool.false_eq_true, ↓reduceIte] at sent
      cases read : readFrame (readBytes packet.memory header.p header.l) with
      | none => simp [read] at sent
      | some frame =>
          simp only [read] at sent
          split_ifs at sent
          exact ⟨header, frame, rfl, control, read, sent⟩

theorem lacSessionForward_sent {memory : Memory} {buf len sess proto : Nat}
    (sent : lacSessionForward links memory buf len sess proto = .sent message) :
    (links.toPppoe sess ∧
        pppoeForwardtoSessionPppoe links memory buf len sess = .sent message) ∨
      (¬ links.toPppoe sess ∧ ∃ other, Readdressed buf memory other ∧
        message = .l2tp (readBytes other buf (len % 2 ^ 16))) := by
  rw [Links.toPppoe]
  simp only [lacSessionForward] at sent
  split_ifs at sent with _ _ _ _ peer
  · exact .inl ⟨peer, sent⟩
  · refine .inr ⟨peer, ?_⟩
    have rewritten := rewriteHeader_readdressed links memory buf
      (links.session (links.session sess).forwardtosession).tunnel
      (links.session sess).forwardtosession
    obtain ⟨other, same, rfl⟩ := tunnelsend_l2tp peer sent
    exact ⟨other, rewritten.trans same, rfl⟩

theorem l2tp_kept_iff (sent : processudp links packet = .sent message) :
    Carries (Input.l2tp packet).message message ↔ Sound links (.l2tp packet) := by
  obtain ⟨header, frame, accepted, data, read, forwarded⟩ := processudp_sent sent
  have received := received_l2tp accepted data read
  simp only [Carries, Input.message, Message.frame_l2tp, Sound, accepted, Option.some.injEq,
    forall_eq', received]
  by_cases inside : messageLength packet.memory packet.start packet.size ≤ packet.size
  · simp only [Nat.not_lt.mpr inside, ↓reduceIte, Option.some.injEq, exists_eq_left', inside,
      true_and]
    rcases lacSessionForward_sent forwarded with ⟨peer, towards⟩ | ⟨remote, other, same, rfl⟩
    · have carried := pppoeForwardtoSessionPppoe_frame packet.room packet.size_lt peer towards
      rw [carried.2, pppoe_frame_iff accepted read inside]
      exact (imp_iff_right peer).symm
    · refine iff_of_true ?_ fun peer => absurd peer remote
      rw [Message.frame_l2tp, Nat.mod_eq_of_lt packet.size_lt,
        readdressed_l2tp accepted data same, received, if_neg (Nat.not_lt.mpr inside)]
  · simp [inside, Nat.not_le.mp inside]

theorem processPppoeSess_sent (sent : processPppoeSess links packet = .sent message) :
    ∃ frame, packet.memory (packet.start + 14) = 0x11 ∧
      readFrame (readBytes packet.memory (packet.start + (14 + 6))
        (ntohs packet.memory (packet.start + 18))) = some frame ∧
      pppoeForwardtoSessionRmlns links packet.memory packet.start
        (ntohs packet.memory (packet.start + 16)) = .sent message := by
  simp only [processPppoeSess] at sent
  cases read : readFrame (readBytes packet.memory (packet.start + (14 + 6))
      (ntohs packet.memory (packet.start + 18))) with
  | none =>
      simp only [read] at sent
      split_ifs at sent
  | some frame =>
      simp only [read] at sent
      split_ifs at sent with _ _ _ version type
      refine ⟨frame, UInt8.toNat_inj.mp ?_, rfl, sent⟩
      have high := congrArg UInt8.toNat (not_not.mp version)
      have low := congrArg UInt8.toNat (not_not.mp type)
      rw [UInt8.toNat_div] at high
      rw [UInt8.toNat_mod] at low
      change _ / 16 = 1 at high
      change _ % 16 = 1 at low
      change _ = 17
      omega

theorem pppoe_kept_iff (sent : processPppoeSess links packet = .sent message) :
    Carries (Input.pppoe packet).message message ↔ Sound links (.pppoe packet) := by
  obtain ⟨frame, version, read, forwarded⟩ := processPppoeSess_sent sent
  have small := packet.size_lt
  simp only [Carries, Input.message, Message.frame_pppoe, Sound, pppoeFrame_readBytes version, read]
  by_cases inside : 14 + 6 + ntohs packet.memory (packet.start + 18) ≤ packet.size
  · have carried := pppoeForwardtoSessionRmlns_frame forwarded (by omega)
    rw [if_neg (Nat.not_lt.mpr inside)]
    exact iff_of_true ⟨frame, rfl, carried.trans read⟩ inside
  · simp [inside, Nat.not_le.mp inside]

/-- **Frames kept.** Whenever a frame is forwarded, the message that is sent carries it exactly if
the length that the received packet has for itself is not more than what was received and, towards a
PPPoE peer, there is no offset and the frame is alone. -/
theorem frames_kept_iff (links : Links) (input : Input) (message : Message)
    (sent : process links input = .sent message) :
    Carries input.message message ↔ Sound links input := by
  cases input with
  | l2tp packet => exact l2tp_kept_iff sent
  | pppoe packet => exact pppoe_kept_iff sent

/-- Session 2 is of a remote LNS, and session 3 of a PPPoE peer. -/
def linked : Links where
  session := fun s =>
    if s = 2 then ⟨2, 9, 3, Vector.replicate 6 0⟩
    else if s = 3 then ⟨tunnelIdPppoe, 3, 2, Vector.replicate 6 0xAA⟩
    else ⟨0, 0, 0, Vector.replicate 6 0⟩
  tunnel := fun t => if t = 2 then ⟨7, 0, 0, 1, true⟩ else ⟨0, 0, 0, 0, false⟩
  clusterIamMaster := true
  ipv6Prefix := false
  pppoeHwaddr := Vector.replicate 6 0xBB
  pppoe_local := rfl

/-- A packet of session 2 with these flags. -/
def dataPacket (flags : UInt8) (rest : List UInt8) (short : 6 + rest.length < 2 ^ 16) : Packet where
  memory := writeBytes (fun _ => 0) 32 ([flags, 0x02, 0x00, 0x02, 0x00, 0x02] ++ rest)
  start := 32
  size := 6 + rest.length
  room := by simp
  size_lt := short

/-- What is sent to the PPPoE peer for these bytes. -/
def peerMessage (frame : List UInt8) : Message :=
  let header := setupHeader linked.pppoeHwaddr (Vector.replicate 6 0xAA) codeSess 3 ethPPppSes
  .pppoe (header.take 18 ++ bytes16 frame.length ++ frame)

/-- A message without options, with an HDLC header. -/
theorem frames_kept_plain :
    Carries (Input.l2tp (dataPacket 0 [0xFF, 0x03, 0x00, 0x21, 0x45] (by simp))).message
      (peerMessage [0x00, 0x21, 0x45]) := by
  refine (frames_kept_iff linked _ _ (by decide +kernel)).mpr ?_
  intro header accepted
  have read : readHeader (dataPacket 0 [0xFF, 0x03, 0x00, 0x21, 0x45] (by simp)).memory 32 11 =
      some ⟨2, 2, 0, 0, 38, 5⟩ := by decide
  obtain rfl := Option.some.inj (accepted.symm.trans read)
  refine ⟨by decide, fun _ => ⟨by decide, ?_⟩⟩
  rw [FrameAlone, if_neg (by decide)]
  decide

/-- The offset field is sent as a part of the frame. -/
theorem frame_with_offset : ¬ ∀ (links : Links) (input : Input) (message : Message),
    process links input = .sent message → Carries input.message message := by
  intro kept
  obtain ⟨frame, received, sent⟩ := kept linked
    (.l2tp (dataPacket 0x02 [0x00, 0x00, 0x00, 0x21, 0x45] (by simp)))
    (peerMessage [0x00, 0x00, 0x00, 0x21, 0x45]) (by decide +kernel)
  have differ :
      (Input.l2tp (dataPacket 0x02 [0x00, 0x00, 0x00, 0x21, 0x45] (by simp))).message.frame ≠
        (peerMessage [0x00, 0x00, 0x00, 0x21, 0x45]).frame := by
    decide
  exact differ (received.trans sent.symm)

end Input

end L2tpns.L2tp
