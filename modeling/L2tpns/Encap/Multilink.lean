import L2tpns.Encap.Makeppp
import Mathlib.Tactic.IntervalCases

/-! # Multilink headers

The peer of a bundle puts fragments together by the bits and the sequence number of their
multilink headers. In the long format the makers write both where the peer reads them. In the
short format they write the bits into the low byte of the sequence number, so that no fragment
begins or ends a frame for the peer (`L2tpns.Encap.multilink_decodes_iff`).
-/

namespace L2tpns.Encap

open Avp (Memory readBytes writeBytes readBytes_length readBytes_append)
open L2tp (readFrame readProto dropHdlc hdlcHeader Frame codeSess ethPPppSes setupHeader
  setupHeader_length dropHdlc_of_ne)
open Server (bytes16 bytes32 pppLcp tunnelIdPppoe)

/-- The bits and the sequence number of a fragment. -/
structure MpHeader where
  first : Bool
  last : Bool
  seq : Nat
deriving DecidableEq, Repr

/-- The bits are on top of the first byte; the sequence number has 12 or 24 bits. -/
def readMpHeader (short : Bool) : List UInt8 → Option MpHeader
  | byte :: second :: rest =>
      let bits := MpHeader.mk (decide (byte &&& mpBegin ≠ 0)) (decide (byte &&& mpEnd ≠ 0))
      if short then some (bits (byte.toNat % 2 ^ 4 * 2 ^ 8 + second.toNat))
      else
        match rest with
        | third :: fourth :: _ =>
            some (bits (second.toNat * 2 ^ 16 + third.toNat * 2 ^ 8 + fourth.toNat))
        | _ => none
  | _ => none

/-- The multilink header of a PPP frame. -/
def readFragment (short : Bool) (data : List UInt8) : Option MpHeader :=
  match readFrame data with
  | some frame => if frame.proto = pppMp then readMpHeader short frame.information else none
  | none => none

/-- The bits that a fragment is sent with. -/
def mpBits (first last : Bool) : UInt8 :=
  (if first then mpBegin else 0) ||| (if last then mpEnd else 0)

/-- What the peer has to find. -/
def State.fragmentHeader (st : State) (s bid : Nat) (first last : Bool) : MpHeader :=
  ⟨first, last, (st.bundle bid).seqNumT.toNat % 2 ^ if st.mssf s then 12 else 24⟩

/-- A call of a maker, with its buffer or with room in front of its payload. -/
inductive Call where
  | makeppp (b size : Nat) (p : Option Nat)
  | optMakeppp (p : Nat) (room : 28 ≤ p)
  | pppoeMakeppp (b size : Nat) (p : Option Nat)
  | optPppoeMakeppp (p : Nat) (room : 28 ≤ p)

def Call.run (call : Call) (st : State) (memory : Memory) (l s t mtype : Nat) (prio : Bool)
    (bid : Nat) (mpBits : UInt8) : Made :=
  match call with
  | .makeppp b size p => Encap.makeppp st memory b size p l s t mtype prio bid mpBits
  | .optMakeppp p _ => Encap.optMakeppp st memory p l s t mtype prio bid mpBits
  | .pppoeMakeppp b size p => Encap.pppoeMakeppp st memory b size p l s t mtype bid mpBits
  | .optPppoeMakeppp p _ => Encap.optPppoeMakeppp st memory p l s t mtype bid mpBits

/-- The bytes of the PPP frame with `l` bytes of payload, behind the header of tunnel `t`, if a
frame is returned. -/
def Call.pppFrame (call : Call) (made : Made) (l t : Nat) : Option (List UInt8) :=
  let header := if t = tunnelIdPppoe then 14 + 6 else 6
  match call with
  | .makeppp b _ _ | .pppoeMakeppp b _ _ =>
      made.frame.map fun q => readBytes made.memory (b + header) (q + l - (b + header))
  | .optMakeppp p _ | .optPppoeMakeppp p _ =>
      made.frame.map fun q => readBytes made.memory (q + header) (p + l - (q + header))

section Header

variable {first last : Bool} {seq : UInt32} {rest : List UInt8}

theorem mpBits_begin (first last : Bool) :
    decide (mpBits first last &&& mpBegin ≠ 0) = first := by
  cases first <;> cases last <;> decide

theorem mpBits_end (first last : Bool) : decide (mpBits first last &&& mpEnd ≠ 0) = last := by
  cases first <;> cases last <;> decide

theorem long_decodes (first last : Bool) (seq : UInt32) (rest : List UInt8) :
    readMpHeader false (mpHeader false seq (mpBits first last) ++ rest) =
      some ⟨first, last, seq.toNat % 2 ^ 24⟩ := by
  have small := seq.toNat_lt
  have number : (UInt8.ofNat (seq.toNat / 2 ^ 16)).toNat * 2 ^ 16 +
      (UInt8.ofNat (seq.toNat / 2 ^ 8)).toNat * 2 ^ 8 + (UInt8.ofNat seq.toNat).toNat =
        seq.toNat % 2 ^ 24 := by
    simp only [UInt8.toNat_ofNat']
    omega
  have shown : readMpHeader false (mpHeader false seq (mpBits first last) ++ rest) =
      some ⟨decide (mpBits first last &&& mpBegin ≠ 0), decide (mpBits first last &&& mpEnd ≠ 0),
        (UInt8.ofNat (seq.toNat / 2 ^ 16)).toNat * 2 ^ 16 +
          (UInt8.ofNat (seq.toNat / 2 ^ 8)).toNat * 2 ^ 8 + (UInt8.ofNat seq.toNat).toNat⟩ := rfl
  rw [shown, mpBits_begin, mpBits_end, number]

theorem short_word (seq : UInt32) (bits : UInt8) :
    ((seq &&& 0x0FFF) ||| bits.toUInt32).toNat = seq.toNat % 2 ^ 12 ||| bits.toNat := by
  have mask := Nat.and_two_pow_sub_one_eq_mod seq.toNat 12
  simp only [Nat.reducePow, Nat.add_one_sub_one] at mask
  simp [mask]

theorem low_byte {n : Nat} (low : n < 2 ^ 4) :
    UInt8.ofNat n &&& mpBegin = 0 ∧ UInt8.ofNat n &&& mpEnd = 0 := by
  interval_cases n <;> decide

theorem short_decodes_iff (first last : Bool) (seq : UInt32) (rest : List UInt8) :
    readMpHeader true (mpHeader true seq (mpBits first last) ++ rest) =
      some ⟨first, last, seq.toNat % 2 ^ 12⟩ ↔ first = false ∧ last = false := by
  have shown : readMpHeader true (mpHeader true seq (mpBits first last) ++ rest) =
      some (MpHeader.mk
        (decide (UInt8.ofNat ((seq.toNat % 2 ^ 12 ||| (mpBits first last).toNat) / 2 ^ 8) &&&
          mpBegin ≠ 0))
        (decide (UInt8.ofNat ((seq.toNat % 2 ^ 12 ||| (mpBits first last).toNat) / 2 ^ 8) &&&
          mpEnd ≠ 0))
        ((UInt8.ofNat ((seq.toNat % 2 ^ 12 ||| (mpBits first last).toNat) / 2 ^ 8)).toNat % 2 ^ 4
          * 2 ^ 8 + (UInt8.ofNat (seq.toNat % 2 ^ 12 ||| (mpBits first last).toNat)).toNat)) := by
    rw [← short_word]
    rfl
  have word : seq.toNat % 2 ^ 12 ||| (mpBits first last).toNat < 2 ^ 12 :=
    Nat.or_lt_two_pow (Nat.mod_lt _ (by decide))
      (Nat.lt_trans (UInt8.toNat_lt _) (by decide))
  obtain ⟨no_begin, no_end⟩ := @low_byte
    ((seq.toNat % 2 ^ 12 ||| (mpBits first last).toNat) / 2 ^ 8) (by omega)
  rw [shown, no_begin, no_end]
  constructor
  · intro same
    obtain ⟨begins, ends, _⟩ := MpHeader.mk.inj (Option.some.inj same)
    exact ⟨by simpa using begins.symm, by simpa using ends.symm⟩
  · rintro ⟨rfl, rfl⟩
    have plain : seq.toNat % 2 ^ 12 ||| (mpBits false false).toNat = seq.toNat % 2 ^ 12 :=
      Nat.or_zero _
    have number : (UInt8.ofNat (seq.toNat % 2 ^ 12 / 2 ^ 8)).toNat % 2 ^ 4 * 2 ^ 8 +
        (UInt8.ofNat (seq.toNat % 2 ^ 12)).toNat = seq.toNat % 2 ^ 12 := by
      simp only [UInt8.toNat_ofNat']
      omega
    rw [plain, number]
    simp

end Header

section Fragment

variable {st : State} {memory : Memory} {b size p l s t mtype bid q start : Nat} {prio : Bool}
  {first last : Bool} {bytes rest : List UInt8}

theorem messageType_fragment (fragment : st.isFragment bid) :
    st.messageType mtype bid = pppMp := if_pos fragment

theorem mpField_fragment (fragment : st.isFragment bid) (bits : UInt8) :
    st.mpField s bid bits = mpHeader (st.mssf s) (st.bundle bid).seqNumT bits := if_pos fragment

theorem mpField_decodes_iff (fragment : st.isFragment bid) (rest : List UInt8) :
    readMpHeader (st.mssf s) (st.mpField s bid (mpBits first last) ++ rest) =
        some (st.fragmentHeader s bid first last) ↔
      st.mssf s = false ∨ first = false ∧ last = false := by
  rw [mpField_fragment fragment, State.fragmentHeader]
  cases format : st.mssf s with
  | false => simp [long_decodes]
  | true => simpa using short_decodes_iff first last (st.bundle bid).seqNumT rest

theorem readProto_protocolField (s : Nat) (some : rest ≠ []) :
    readProto (st.protocolField s pppMp ++ rest) = .some ⟨pppMp, rest⟩ := by
  obtain ⟨byte, others, rfl⟩ := List.exists_cons_of_ne_nil some
  have odd : (61 : UInt8) &&& 1 ≠ 0 := by decide
  rw [State.protocolField]
  split_ifs <;> simp [readProto, pppMp, bytes16, odd]

/-- An HDLC header is met, or there is none. -/
theorem dropHdlc_hdlcField (s : Nat) (some : rest ≠ []) :
    dropHdlc (st.hdlcField s pppMp ++ (st.protocolField s pppMp ++ rest)) =
      st.protocolField s pppMp ++ rest := by
  have plain : (st.protocolField s pppMp ++ rest).take 2 ≠ hdlcHeader := by
    obtain ⟨byte, others, rfl⟩ := List.exists_cons_of_ne_nil some
    rw [State.protocolField]
    split_ifs <;> simp [pppMp, bytes16, hdlcHeader]
  rw [State.hdlcField]
  split_ifs
  · have long : 0 < (st.protocolField s pppMp ++ rest).length :=
      List.length_pos_iff.mpr (List.append_ne_nil_of_right_ne_nil _ some)
    rw [dropHdlc, if_pos ⟨by simpa [hdlcHeader] using long, rfl⟩]
    rfl
  · exact dropHdlc_of_ne plain

theorem readFragment_l2tp (short : Bool) (s : Nat) (some : rest ≠ []) :
    readFragment short (st.hdlcField s pppMp ++ (st.protocolField s pppMp ++ rest)) =
      readMpHeader short rest := by
  rw [readFragment, readFrame, dropHdlc_hdlcField s some, readProto_protocolField s some]
  exact if_pos rfl

theorem readFragment_pppoe (short : Bool) (rest : List UInt8) :
    readFragment short (bytes16 pppMp ++ rest) = readMpHeader short rest := by
  have plain : dropHdlc (bytes16 pppMp ++ rest) = bytes16 pppMp ++ rest :=
    dropHdlc_of_ne (by simp [bytes16, pppMp, hdlcHeader])
  rw [readFragment, readFrame, plain]
  simp [readProto, bytes16, pppMp]

variable {payload frame : List UInt8}

theorem Agrees.fields {front fields : List UInt8}
    (agrees : Agrees memory start (front ++ fields ++ payload))
    (clear : front.length = 20 ∨ front.length + fields.length ≤ 18)
    (pointer : q = start + (front ++ fields).length) (l : Nat) :
    ∃ rest, readBytes memory (start + front.length) (q + l - (start + front.length)) =
      fields ++ rest := by
  have count : q + l - (start + front.length) = fields.length + l := by
    rw [pointer, List.length_append]
    omega
  have here : readBytes memory (start + front.length) fields.length = fields := by
    refine List.ext_getElem (readBytes_length _ _ _) fun k _ inside => ?_
    have there : (front ++ fields ++ payload)[front.length + k]? = some fields[k] := by
      rw [List.append_assoc, List.getElem?_append_right (Nat.le_add_right _ _),
        Nat.add_sub_cancel_left, List.getElem?_append_left inside,
        List.getElem?_eq_getElem inside]
    have read := agrees _ _ there (by omega) (by omega)
    simpa [readBytes, Nat.add_assoc] using read
  rw [count, readBytes_append, here]
  exact ⟨_, rfl⟩

/-- What is between the header of the tunnel and the multilink header. -/
def State.fields (st : State) (s t mtype bid : Nat) (bits : UInt8) : List UInt8 :=
  (if t = tunnelIdPppoe then bytes16 pppMp
    else st.hdlcField s pppMp ++ st.protocolField s pppMp) ++
    (st.mpField s bid bits ++ st.beginField mtype bid bits)

theorem fields_decode_iff (fragment : st.isFragment bid) (rest : List UInt8) :
    readFragment (st.mssf s) (st.fields s t mtype bid (mpBits first last) ++ rest) =
        some (st.fragmentHeader s bid first last) ↔
      st.mssf s = false ∨ first = false ∧ last = false := by
  have decodes := @mpField_decodes_iff st s bid first last fragment
    (st.beginField mtype bid (mpBits first last) ++ rest)
  have filled : st.mpField s bid (mpBits first last) ++
      (st.beginField mtype bid (mpBits first last) ++ rest) ≠ [] := by
    rw [mpField_fragment fragment, mpHeader]
    split_ifs <;> simp [bytes16, bytes32]
  rw [← decodes, State.fields]
  split_ifs with tunnel
  · rw [List.append_assoc, List.append_assoc, readFragment_pppoe]
  · rw [List.append_assoc, List.append_assoc, List.append_assoc, readFragment_l2tp _ _ filled]

theorem l2tpBytes_fields (fragment : st.isFragment bid) (tunnel : t ≠ tunnelIdPppoe)
    (bits : UInt8) : st.l2tpBytes s t mtype prio bid bits =
      st.l2tpHeader s t prio ++ st.fields s t mtype bid bits := by
  rw [State.l2tpBytes, messageType_fragment fragment, State.fields, if_neg tunnel,
    List.append_assoc]

theorem pppoeBytes_fields (fragment : st.isFragment bid) (bits : UInt8) :
    st.pppoeBytes s mtype bid bits =
      setupHeader st.links.pppoeHwaddr (st.links.session s).srcHwaddr codeSess s ethPPppSes ++
        st.fields s tunnelIdPppoe mtype bid bits := by
  rw [State.pppoeBytes, messageType_fragment fragment, State.fields, if_pos rfl]

theorem agrees_alone (memory : Memory) (start : Nat) (bytes : List UInt8) :
    Agrees (writeBytes memory start bytes) start (bytes ++ []) := by
  rw [List.append_nil]
  exact agrees_write memory start bytes

theorem l2tp_frame (fragment : st.isFragment bid) (tunnel : t ≠ tunnelIdPppoe) {bits : UInt8}
    (agrees : Agrees memory start (st.l2tpBytes s t mtype prio bid bits ++ payload))
    (pointer : q = start + (st.l2tpBytes s t mtype prio bid bits).length) (l : Nat) :
    ∃ rest, readBytes memory (start + 6) (q + l - (start + 6)) =
      st.fields s t mtype bid bits ++ rest := by
  have short := @l2tpBytes_length st s t mtype bid prio bits
  rw [l2tpBytes_fields fragment tunnel] at agrees pointer short
  have clear : (st.l2tpHeader s t prio).length + (st.fields s t mtype bid bits).length ≤ 18 := by
    rw [← List.length_append]
    omega
  have found := agrees.fields (.inr clear) pointer l
  rwa [l2tpHeader_length] at found

theorem pppoe_frame (fragment : st.isFragment bid) {bits : UInt8}
    (agrees : Agrees memory start (st.pppoeBytes s mtype bid bits ++ payload))
    (pointer : q = start + (st.pppoeBytes s mtype bid bits).length) (l : Nat) :
    ∃ rest, readBytes memory (start + (14 + 6)) (q + l - (start + (14 + 6))) =
      st.fields s tunnelIdPppoe mtype bid bits ++ rest := by
  rw [pppoeBytes_fields fragment] at agrees pointer
  have found := agrees.fields (.inl (setupHeader_length _ _ _ _ _)) pointer l
  rwa [setupHeader_length] at found

theorem counted_fragment (fragment : st.isFragment bid) :
    st.counted bid = Function.update st.bundle bid
      { st.bundle bid with seqNumT := (st.bundle bid).seqNumT + 1 } := if_pos fragment

variable {copy : Option Nat} {bits : UInt8}

theorem pppoeMakeppp_bundle :
    (pppoeMakeppp st memory b size copy l s t mtype bid bits).bundle = st.counted bid ∨
      (pppoeMakeppp st memory b size copy l s t mtype bid bits).bundle = st.bundle ∧
      (pppoeMakeppp st memory b size copy l s t mtype bid bits).frame = none := by
  simp only [pppoeMakeppp]
  split_ifs
  · exact .inr ⟨rfl, rfl⟩
  · exact .inr ⟨rfl, rfl⟩
  · exact .inl rfl
  · cases copy <;> exact .inl rfl

theorem makeppp_bundle :
    (makeppp st memory b size copy l s t mtype prio bid bits).bundle = st.counted bid ∨
      (makeppp st memory b size copy l s t mtype prio bid bits).bundle = st.bundle ∧
      (makeppp st memory b size copy l s t mtype prio bid bits).frame = none := by
  simp only [makeppp]
  split_ifs
  · exact pppoeMakeppp_bundle
  · exact .inr ⟨rfl, rfl⟩
  · exact .inl rfl
  · cases copy <;> exact .inl rfl

theorem optPppoeMakeppp_bundle :
    (optPppoeMakeppp st memory p l s t mtype bid bits).bundle = st.counted bid ∨
      (optPppoeMakeppp st memory p l s t mtype bid bits).bundle = st.bundle ∧
      (optPppoeMakeppp st memory p l s t mtype bid bits).frame = none := by
  simp only [optPppoeMakeppp]
  split_ifs
  · exact .inr ⟨rfl, rfl⟩
  · exact .inl rfl

theorem optMakeppp_bundle :
    (optMakeppp st memory p l s t mtype prio bid bits).bundle = st.counted bid ∨
      (optMakeppp st memory p l s t mtype prio bid bits).bundle = st.bundle ∧
      (optMakeppp st memory p l s t mtype prio bid bits).frame = none := by
  simp only [optMakeppp]
  split_ifs
  · exact optPppoeMakeppp_bundle
  · exact .inl rfl

theorem Call.run_bundle (call : Call) :
    (call.run st memory l s t mtype prio bid bits).bundle = st.counted bid ∨
      (call.run st memory l s t mtype prio bid bits).bundle = st.bundle ∧
      (call.run st memory l s t mtype prio bid bits).frame = none :=
  match call with
  | .makeppp _ _ _ => makeppp_bundle
  | .optMakeppp _ _ => optMakeppp_bundle
  | .pppoeMakeppp _ _ _ => pppoeMakeppp_bundle
  | .optPppoeMakeppp _ _ => optPppoeMakeppp_bundle

theorem pppoeMakeppp_fields (fragment : st.isFragment bid)
    (sent : (Call.pppoeMakeppp b size copy).pppFrame
      (pppoeMakeppp st memory b size copy l s t mtype bid bits) l t = some frame) :
    ∃ rest, frame = st.fields s t mtype bid bits ++ rest := by
  obtain ⟨q, made, rfl⟩ := Option.map_eq_some_iff.mp sent
  have tunnel : t = tunnelIdPppoe := by
    by_contra other
    simp [pppoeMakeppp, other] at made
  subst tunnel
  obtain ⟨pointer, _, _, payload, _, agrees⟩ := pppoeMakeppp_header made
  exact pppoe_frame fragment agrees pointer l

theorem optPppoeMakeppp_fields (fragment : st.isFragment bid)
    (room : 28 ≤ p) (sent : (Call.optPppoeMakeppp p room).pppFrame
      (optPppoeMakeppp st memory p l s t mtype bid bits) l t = some frame) :
    ∃ rest, frame = st.fields s t mtype bid bits ++ rest := by
  obtain ⟨q, made, rfl⟩ := Option.map_eq_some_iff.mp sent
  have tunnel : t = tunnelIdPppoe := by
    by_contra other
    simp [optPppoeMakeppp, other] at made
  subst tunnel
  obtain ⟨start, _, _, agrees⟩ := @optPppoeMakeppp_header st memory p l s mtype bid bits room
  obtain rfl := Option.some.inj (start.symm.trans made)
  have header := (@pppoeBytes_length st s mtype bid bits).2
  exact pppoe_frame fragment agrees (by omega) l

/-- Every frame begins with its fields. -/
theorem Call.pppFrame_fields (call : Call) (fragment : st.isFragment bid)
    (sent : call.pppFrame (call.run st memory l s t mtype prio bid bits) l t = some frame) :
    ∃ rest, frame = st.fields s t mtype bid bits ++ rest := by
  by_cases tunnel : t = tunnelIdPppoe
  · subst tunnel
    cases call with
    | makeppp b size copy =>
        simp only [Call.run, Encap.makeppp, ↓reduceIte] at sent
        exact pppoeMakeppp_fields fragment sent
    | optMakeppp p room =>
        simp only [Call.run, Encap.optMakeppp, ↓reduceIte] at sent
        exact optPppoeMakeppp_fields fragment room sent
    | pppoeMakeppp b size copy => exact pppoeMakeppp_fields fragment sent
    | optPppoeMakeppp p room => exact optPppoeMakeppp_fields fragment room sent
  · cases call with
    | makeppp b size copy =>
        obtain ⟨q, made, rfl⟩ := Option.map_eq_some_iff.mp sent
        obtain ⟨pointer, _, _, payload, _, written⟩ := makeppp_header tunnel made
        have agrees := agrees_write memory b (st.l2tpBytes s t mtype prio bid bits ++ payload)
        rw [← written] at agrees
        rw [if_neg tunnel]
        exact l2tp_frame fragment tunnel agrees pointer l
    | optMakeppp p room =>
        obtain ⟨q, made, rfl⟩ := Option.map_eq_some_iff.mp sent
        have header := @l2tpBytes_length st s t mtype bid prio bits
        simp only [Call.run, optMakeppp_header tunnel room] at made ⊢
        obtain rfl := Option.some.inj made
        have agrees := agrees_alone memory (p - (st.l2tpBytes s t mtype prio bid bits).length)
          (st.l2tpBytes s t mtype prio bid bits)
        rw [if_neg tunnel]
        exact l2tp_frame fragment tunnel agrees (by omega) l
    | pppoeMakeppp b size copy => exact pppoeMakeppp_fields fragment sent
    | optPppoeMakeppp p room => exact optPppoeMakeppp_fields fragment room sent

end Fragment

/-- **Multilink headers decode in the long format.** A call for a bundle of more than one link
advances its sequence number by one, or returns no frame and leaves the bundles as they are. A
frame that is returned decodes to its bits and its sequence number exactly if the format is long,
or no bit is set. -/
theorem multilink_decodes_iff (call : Call) (st : State) (memory : Memory) (l s t mtype : Nat)
    (prio : Bool) (bid : Nat) (first last : Bool) (bundled : bid ≠ 0)
    (links : 1 < (st.bundle bid).numOfLinks) :
    let made := call.run st memory l s t mtype prio bid (mpBits first last)
    let next := Function.update st.bundle bid
      { st.bundle bid with seqNumT := (st.bundle bid).seqNumT + 1 }
    (made.bundle = next ∨ made.bundle = st.bundle ∧ made.frame = none) ∧
      ∀ frame, call.pppFrame made l t = some frame →
        made.bundle = next ∧
          (readFragment (st.mssf s) frame = some (st.fragmentHeader s bid first last) ↔
            st.mssf s = false ∨ first = false ∧ last = false) := by
  have fragment : st.isFragment bid := decide_eq_true ⟨bundled, links⟩
  have counts := @Call.run_bundle st memory l s t mtype bid prio (mpBits first last) call
  dsimp only
  rw [← counted_fragment fragment]
  refine ⟨counts, fun frame sent => ?_⟩
  obtain ⟨rest, rfl⟩ := call.pppFrame_fields fragment sent
  refine ⟨counts.resolve_right fun refused => ?_, fields_decode_iff fragment rest⟩
  cases call <;> simp [Call.pppFrame, refused.2] at sent

/-- One fragment of a bundle in the long format. -/
theorem multilink_decodes_long :
    ∃ frame, (Call.optMakeppp 64 (by simp)).pppFrame ((Call.optMakeppp 64 (by simp)).run
        (bonded false) (fun _ => 7) 3 2 2 0x21 false 1 (mpBits true false)) 3 2 = some frame ∧
      readFragment false frame = some ⟨true, false, 0x12345⟩ := by
  have decodes := (multilink_decodes_iff (Call.optMakeppp 64 (by simp)) (bonded false)
    (fun _ => 7) 3 2 2 0x21 false 1 true false (by simp) (by simp [bonded])).2 _ rfl
  exact ⟨_, rfl, decodes.2.mpr (.inl rfl)⟩

/-- In the short format a frame in one fragment does not begin anywhere. -/
theorem short_format_lost : ¬ ∀ (call : Call) (st : State) (memory : Memory)
    (l s t mtype : Nat) (prio : Bool) (bid : Nat) (first last : Bool), bid ≠ 0 →
    1 < (st.bundle bid).numOfLinks → ∀ frame,
      call.pppFrame (call.run st memory l s t mtype prio bid (mpBits first last)) l t =
        some frame →
      readFragment (st.mssf s) frame = some (st.fragmentHeader s bid first last) := by
  intro decodes
  have found := decodes (Call.optMakeppp 64 (by simp)) (bonded true) (fun _ => 7) 3 2 2 0x21
    false 1 true true (by simp) (by simp [bonded]) _ rfl
  revert found
  decide

end L2tpns.Encap
