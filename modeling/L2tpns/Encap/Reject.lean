import L2tpns.Encap.Makeppp
import L2tpns.L2tp.Bounds
import L2tpns.Ppp.Packets

/-! # Reject messages

A packet of an unknown code, or of a protocol that is not configured, goes back to the peer as
far as the MRU allows. The header of the tunnel is not part of the MRU, but it is part of the
buffer, and the length is counted in 16 bits. The messages fit exactly where neither makes a
difference, and where the MRU is not below its minimum (`L2tpns.Encap.rejects_fit_iff`).
-/

namespace L2tpns.Encap

open Avp (Memory readBytes writeBytes ntohs writeBytes_inside writeBytes_before)
open L2tp (Access Links setupHeader_length)
open Server (bytes16 codeRej protocolRej maxEther pppLcp tunnelIdPppoe)

/-- `MINMTU`. -/
def minMtu : Nat := 576

/-- The sessions with their MRU and their identifiers of LCP. -/
structure Rejecter extends State where
  mru : Nat → Nat
  lcpIdent : Nat → Nat

/-- What a reject message does: the accesses to its buffer and to the rejected packet, where the
message starts in the buffer, and how many bytes are sent. -/
structure Rejection where
  memory : Memory
  writes : List Access
  reads : List Access
  frame : Option Nat
  sent : Nat

/-- The MRU for a buffer of `size` bytes. -/
def boundedMru (mru size : Nat) : Nat :=
  let raised := if mru < minMtu then minMtu else mru
  if size < raised then size else raised

/-- Send a message with `fields`, and with as much of the packet of `l` bytes at `p` as the MRU
allows. The count of bytes to copy is a `size_t`. -/
def reject (st : Rejecter) (memory : Memory) (s t proto : Nat) (code : UInt8)
    (fields : List UInt8) (p l buf size : Nat) : Rejection :=
  let mru := boundedMru (st.mru s) size
  let more := (l + (4 + fields.length)) % 2 ^ 16
  let length := if mru < more then mru else more
  let made := makeppp st.toState memory buf size none 0 s t proto false 0 0
  match made.frame with
  | none => ⟨made.memory, [], [], none, 0⟩
  | some q =>
      let ident := UInt8.ofNat (st.lcpIdent s + 1)
      let header := writeBytes made.memory q ([code, ident] ++ bytes16 length ++ fields)
      let count := (length + 2 ^ 64 - (4 + fields.length)) % 2 ^ 64
      let behind := q + (4 + fields.length)
      { memory := writeBytes header behind (readBytes header p count)
        writes := [⟨buf, q - buf⟩, ⟨q, 4 + fields.length⟩, ⟨behind, count⟩]
        reads := [⟨p, count⟩]
        frame := some q
        sent := (length + (q - buf)) % 2 ^ 16 }

/-- `ppp_code_rej`. -/
def pppCodeRej (st : Rejecter) (memory : Memory) (s t proto p l buf size : Nat) : Rejection :=
  reject st memory s t proto codeRej [] p l buf size

/-- `protoreject`. -/
def protoreject (st : Rejecter) (memory : Memory) (s t p l proto buf : Nat) : Rejection :=
  reject st memory s t pppLcp protocolRej (bytes16 proto) p l buf maxEther

/-- Everything is written and sent inside of the `size` bytes at `buf`, the bytes that are copied
are among the `l` bytes at `p`, and the length field is what is sent behind the PPP protocol, and
not more than the MRU. -/
structure Rejection.Fits (rejection : Rejection) (buf size p l mru : Nat) : Prop where
  written : ∀ access ∈ rejection.writes, access.Inside buf size
  sent : buf + rejection.sent ≤ buf + size
  received : ∀ access ∈ rejection.reads, access.Inside p l
  length : ∀ q, rejection.frame = some q →
    q + ntohs rejection.memory (q + 2) = buf + rejection.sent
  mru : ∀ q, rejection.frame = some q → ntohs rejection.memory (q + 2) ≤ mru

/-- How long the headers of tunnel and PPP are in front of a message. -/
def State.headerLength (st : State) (s t proto : Nat) : Nat :=
  if t = tunnelIdPppoe then 14 + 6 + 2
  else 6 + (st.hdlcField s proto).length + (st.protocolField s proto).length

/-- The message has `k` bytes before the packet. Its length is a number of 16 bits, it fits behind
the headers, and it is not made longer than the MRU by the minimum. -/
def Rejecter.HasRoom (st : Rejecter) (s t proto k l size : Nat) : Prop :=
  l + k < 2 ^ 16 ∧
    st.headerLength s t proto + min (l + k) (boundedMru (st.mru s) size) ≤ size ∧
    min (l + k) (boundedMru (st.mru s) size) ≤ st.mru s

instance (st : Rejecter) (s t proto k l size : Nat) : Decidable (st.HasRoom s t proto k l size) :=
  inferInstanceAs (Decidable (_ ∧ _ ∧ _))

variable {st : Rejecter} {memory : Memory} {s t proto p l buf size : Nat} {prio : Bool}
  {bits code : UInt8} {fields : List UInt8}

theorem alone_isFragment (st : State) : st.isFragment 0 = false := by simp [State.isFragment]

theorem l2tpBytes_alone (st : State) : (st.l2tpBytes s t proto prio 0 bits).length =
    6 + (st.hdlcField s proto).length + (st.protocolField s proto).length := by
  simp [State.l2tpBytes, State.messageType, State.mpField, State.beginField,
    alone_isFragment, Nat.add_assoc]

theorem pppoeBytes_alone (st : State) :
    (st.pppoeBytes s proto 0 bits).length = 14 + 6 + 2 := by
  simp [State.pppoeBytes, State.messageType, State.mpField, State.beginField,
    alone_isFragment, setupHeader_length]

theorem headerLength_le (st : State) (s t proto : Nat) : st.headerLength s t proto ≤ 22 := by
  have hdlc := @hdlcField_length st s proto
  have protocol := @protocolField_length st s proto
  rw [State.headerLength]
  split_ifs <;> omega

theorem makeppp_alone (st : State) (memory : Memory) (room : 28 ≤ size) :
    (makeppp st memory buf size none 0 s t proto prio 0 bits).frame =
      some (buf + st.headerLength s t proto) := by
  by_cases tunnel : t = tunnelIdPppoe
  · subst tunnel
    have pointer := (@pppoeWriter_wrote st memory buf s proto 0 bits).pointer
    rw [pppoeBytes_alone] at pointer
    have fits : ¬size < (st.pppoeWriter memory buf s proto 0 bits).b - buf + 0 := by omega
    rw [makeppp, if_pos rfl, pppoeMakeppp, if_neg (by simp), if_neg (by omega), if_neg fits,
      State.headerLength, if_pos rfl, pointer]
  · have short := @l2tpBytes_length st s t proto 0 prio bits
    have fits : ¬size < ((Writer.mk memory buf).append (st.l2tpBytes s t proto prio 0 bits)).b -
        buf + 0 := by
      simp only [append_b]
      omega
    simp only [makeppp, tunnel, ↓reduceIte, append_l2tpBytes]
    rw [if_neg (by omega), if_neg fits, append_b, l2tpBytes_alone, State.headerLength,
      if_neg tunnel]

theorem boundedMru_bounds (mru : Nat) (room : minMtu ≤ size) :
    minMtu ≤ boundedMru mru size ∧ boundedMru mru size ≤ size := by
  simp only [boundedMru]
  split_ifs <;> omega

theorem ntohs_length {q length : Nat} (small : length < 2 ^ 16) (rest : List UInt8) :
    ntohs (writeBytes (writeBytes memory q ([code, bits] ++ bytes16 length ++ fields))
      (q + (4 + fields.length)) rest) (q + 2) = length := by
  have long : 3 < ([code, bits] ++ bytes16 length ++ fields).length := by
    simp only [List.length_append, bytes16_length, List.length_cons, List.length_nil]
    omega
  have high : writeBytes memory q ([code, bits] ++ bytes16 length ++ fields) (q + 2) =
      UInt8.ofNat (length / 2 ^ 8) := writeBytes_inside memory q (Nat.lt_of_succ_lt long)
  have low : writeBytes memory q ([code, bits] ++ bytes16 length ++ fields) (q + 2 + 1) =
      UInt8.ofNat length := writeBytes_inside memory q long
  have front : q + 2 + 1 < q + (4 + fields.length) := by omega
  rw [ntohs, writeBytes_before _ (Nat.lt_of_succ_lt front), writeBytes_before _ front, high, low]
  simp only [UInt8.toNat_ofNat']
  omega

theorem reject_length {mru k : Nat} (counted : l + k < 2 ^ 16) :
    (if mru < (l + k) % 2 ^ 16 then mru else (l + k) % 2 ^ 16) = min (l + k) mru := by
  rw [Nat.mod_eq_of_lt counted]
  split_ifs <;> omega

/-- **One reject message.** -/
theorem reject_fits_iff (small : l < 2 ^ 16) (room : minMtu ≤ size) (limit : size < 2 ^ 15)
    (few : fields.length ≤ 2) :
    (reject st memory s t proto code fields p l buf size).Fits buf size p l (st.mru s) ↔
      st.HasRoom s t proto (4 + fields.length) l size := by
  have frame := @makeppp_alone s t proto buf size false 0 st.toState memory
    (Nat.le_trans (by decide) room)
  have header := headerLength_le st.toState s t proto
  have bounds := boundedMru_bounds (st.mru s) room
  have minimum : 576 ≤ boundedMru (st.mru s) size := bounds.1
  rw [Rejecter.HasRoom, reject, frame]
  by_cases counted : l + (4 + fields.length) < 2 ^ 16
  · dsimp only
    rw [reject_length counted]
    generalize same : min (l + (4 + fields.length)) (boundedMru (st.mru s) size) = length
    have least : 4 + fields.length ≤ length ∧ length ≤ l + (4 + fields.length) ∧
        length < 2 ^ 15 := by omega
    have count : (length + 2 ^ 64 - (4 + fields.length)) % 2 ^ 64 =
        length - (4 + fields.length) := by omega
    have sent : (length + (buf + st.headerLength s t proto - buf)) % 2 ^ 16 =
        length + st.headerLength s t proto := by omega
    rw [count, sent]
    constructor
    · intro fits
      refine ⟨counted, by simpa [Nat.add_comm] using fits.sent, ?_⟩
      have limited := fits.mru _ rfl
      rwa [ntohs_length (by omega)] at limited
    · rintro ⟨_, inside, limited⟩
      refine ⟨?_, by dsimp only; omega, ?_, ?_, ?_⟩
      · simp only [List.mem_cons, List.not_mem_nil, or_false]
        rintro access (rfl | rfl | rfl) <;> exact ⟨by dsimp only; omega, by dsimp only; omega⟩
      · simp only [List.mem_cons, List.not_mem_nil, or_false]
        rintro access rfl
        exact ⟨Nat.le_refl _, by dsimp only; omega⟩
      · rintro q found
        obtain rfl := Option.some.inj found
        rw [ntohs_length (by omega)]
        dsimp only
        omega
      · rintro q found
        obtain rfl := Option.some.inj found
        rwa [ntohs_length (by omega)]
  · refine iff_of_false (fun fits => ?_) fun room => counted room.1
    -- The length is less than what comes before the packet, so that the count wraps.
    have copied := fits.received _ (List.mem_singleton_self _)
    have last := copied.2
    dsimp only at last
    have short : (l + (4 + fields.length)) % 2 ^ 16 < 4 + fields.length := by omega
    rw [if_neg (by omega)] at last
    omega

/-- **Reject messages fit.** Both kinds of them do exactly where there is room. -/
theorem rejects_fit_iff (st : Rejecter) (memory : Memory) (s t proto p l unknown buf : Nat)
    (small : l < 2 ^ 16) :
    ((pppCodeRej st memory s t proto p l buf maxEther).Fits buf maxEther p l (st.mru s) ↔
        st.HasRoom s t proto 4 l maxEther) ∧
      ((protoreject st memory s t p l unknown buf).Fits buf maxEther p l (st.mru s) ↔
        st.HasRoom s t pppLcp 6 l maxEther) :=
  ⟨reject_fits_iff small (by decide) (by decide) (by decide),
    reject_fits_iff small (by decide) (by decide) (Nat.le_of_eq (bytes16_length unknown))⟩

/-- Session 2 has an MRU of 1500 bytes. -/
def rejecter (mru : Nat) : Rejecter where
  toState := bonded false
  mru := fun _ => mru
  lcpIdent := fun _ => 0

theorem rejects_fit_ordinary :
    (pppCodeRej (rejecter 1500) (fun _ => 0) 2 2 pppLcp 64 100 4096 maxEther).Fits 4096 maxEther
        64 100 1500 ∧
      (protoreject (rejecter 1500) (fun _ => 0) 2 2 64 100 0x8281 4096).Fits 4096 maxEther 64
        100 1500 := by
  obtain ⟨code, protocol⟩ := rejects_fit_iff (rejecter 1500) (fun _ => 0) 2 2 pppLcp 64 100
    0x8281 4096 (by simp)
  exact ⟨code.mpr (by decide), protocol.mpr (by decide)⟩

/-- A long packet of a session with a large MRU is copied beyond the buffer. -/
theorem reject_overflows : ¬ ∀ (st : Rejecter) (memory : Memory) (s t p l unknown buf : Nat),
    l < 2 ^ 16 →
      (protoreject st memory s t p l unknown buf).Fits buf maxEther p l (st.mru s) := by
  intro fits
  have sent := (fits (rejecter 4000) (fun _ => 0) 2 2 64 2610 0x8281 4096 (by simp)).sent
  revert sent
  decide

end L2tpns.Encap
