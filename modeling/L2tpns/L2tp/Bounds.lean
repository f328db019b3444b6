import L2tpns.Avp.Termination
import L2tpns.L2tp.Header

/-! # Bounds of L2TP messages

The payload of a message that is accepted is inside of what was received, and every access for an
AVP inside of its own bytes, exactly if the length field of the header is not more than what was
received, and the AVPs are as long as what is read from them (`L2tpns.L2tp.messages_inside_iff`).
-/

namespace L2tpns.L2tp

open Avp (Attributes Config Cursor Endpoint Memory avpLength avpLength_lt avpLoop bufferRoom ntohs
  plainEndpoint readBytes unhideValue withoutHeader withoutHeader_of_le writeBytes)
open Foundation

/-- Bytes that are read or written. -/
structure Access where
  start : Nat
  count : Nat

/-- The bytes are among the `n` bytes at `p`. -/
def Access.Inside (p n : Nat) (access : Access) : Prop :=
  p ≤ access.start ∧ access.start + access.count ≤ p + n

/-- How many bytes are looked at from option `p` of an LCP request up to `e`. -/
def lcpRead (memory : Memory) (e p : Nat) : Nat :=
  let length := (memory (p + 1)).toNat
  if p + 1 < e then
    if length ≠ 0 ∧ p + length ≤ e then
      let own := if memory p = 5 ∧ length = 6 then 6 else 2
      let rest := lcpRead memory e (p + length)
      max own (if rest = 0 then 0 else length + rest)
    else 2
  else 0
termination_by e - p

/-- What is read of a value of any length. The log has level 4 in `logs`. -/
def fixedRead (logs : Bool) (mtype : Nat) : Nat :=
  match mtype with
  | 0 | 1 | 2 | 9 | 10 | 14 | 29 | 32 => 2
  | 15 | 18 | 19 => if logs then 4 else 0
  | 25 => 4
  | _ => 0

/-- What is read of the value at `b` as far as its length `n` allows. -/
def boundedRead (config : Config) (logs : Bool) (attributes : Attributes) (memory : Memory)
    (mtype b n : Nat) : Nat :=
  match mtype with
  | 1 => if n < 4 then 0 else if logs then n else 4
  | 7 | 8 => if n < 128 then n else 127
  | 11 =>
      if (attributes.message = 1 ∨ attributes.message = 2) ∧ config.l2tpSecret ≠ [] then n else 0
  | 13 => if attributes.isremotelns then if n < 17 then n else 16 else 0
  | 21 | 22 => if n < 96 then n else 95
  | 24 | 38 => if n < 30 then n else 29
  | 27 => lcpRead memory (b + n) b
  | 30 => if n < 64 then n else 63
  | 36 => if 96 < n then 96 else n
  | 46 => if n < 5 then 0 else if logs then n else 5
  | _ => 0

def valueAccesses (config : Config) (logs : Bool) (attributes : Attributes) (memory : Memory)
    (mtype b n : Nat) : List Access :=
  [⟨b, fixedRead logs mtype⟩, ⟨b, boundedRead config logs attributes memory mtype b n⟩]

/-- The original length of the hidden value of `n` bytes at `b`, with the value deciphered. -/
def hiddenValue (config : Config) (vector : List UInt8) (memory : Memory) (mtype b n : Nat) :
    Nat × Memory :=
  let plain := writeBytes memory b (unhideValue config (readBytes memory b n) mtype vector)
  (ntohs plain b, plain)

/-- The accesses to the value of a hidden AVP: it is deciphered, and read from its original length
on. -/
def hiddenAccesses (config : Config) (logs : Bool) (attributes : Attributes) (memory : Memory)
    (mtype b n : Nat) : List Access :=
  if config.l2tpSecret = [] ∨ attributes.randomVector = [] ∨ n < 8 then []
  else
    let value := hiddenValue config attributes.randomVector memory mtype b n
    ⟨b, n⟩ :: if n + 2 < value.1 then []
      else valueAccesses config logs attributes value.2 mtype (b + 2) value.1

/-- The accesses for the AVP at the pointer, unless the message is given up. -/
def avpAccesses (config : Config) (logs : Bool) (cursor : Cursor) : List Access :=
  let memory := cursor.memory
  let p := cursor.p
  let n := avpLength memory p
  let flags := memory p
  ⟨p, 2⟩ :: if cursor.l < n ∨ flags &&& 0x3C ≠ 0 then []
    else ⟨p + 2, 2⟩ :: if ntohs memory (p + 2) ≠ 0 then []
      else ⟨p + 4, 2⟩ :: if flags &&& 0x40 ≠ 0 then
          hiddenAccesses config logs cursor.attributes memory (ntohs memory (p + 4)) (p + 6)
            (withoutHeader n)
        else valueAccesses config logs cursor.attributes memory (ntohs memory (p + 4)) (p + 6)
          (withoutHeader n)

/-- The AVP is handled inside of its own bytes. -/
def AvpInside (config : Config) (logs : Bool) (cursor : Cursor) : Prop :=
  ∀ access ∈ avpAccesses config logs cursor,
    access.Inside cursor.p (avpLength cursor.memory cursor.p)

/-- The loop over the AVPs of a message, before its first iteration. -/
def startAvps (memory : Memory) (header : Header) (endpoint : Endpoint) : Cursor where
  memory := fun k => memory (header.p + k)
  p := 0
  l := header.l
  attributes := Attributes.initial endpoint

/-- A message that is accepted ends inside of what was received, and every access for one of its
AVPs is inside of that. -/
structure ParsedInside (config : Config) (logs : Bool) (endpoint : Endpoint) (memory : Memory)
    (buf len : Nat) : Prop where
  payload : ∀ header, readHeader memory buf len = some header → header.p + header.l ≤ buf + len
  avps : ∀ header, readHeader memory buf len = some header → isControlHeader (memory buf) →
    ∀ cursor, (avpLoop config bufferRoom).Reaches (startAvps memory header endpoint) cursor →
      cursor.goesOn → AvpInside config logs cursor

/-- The value has the size that is read in any case; a hidden one is refused, or ends at the end
of the AVP as far as it is read. -/
def ValueSound (config : Config) (logs : Bool) (cursor : Cursor) : Prop :=
  let n := avpLength cursor.memory cursor.p
  let mtype := ntohs cursor.memory (cursor.p + 4)
  if cursor.memory cursor.p &&& 0x40 ≠ 0 then
    config.l2tpSecret = [] ∨ cursor.attributes.randomVector = [] ∨ n < 14 ∨
      let value := hiddenValue config cursor.attributes.randomVector cursor.memory mtype
        (cursor.p + 6) (n - 6)
      n - 4 < value.1 ∨ value.1 ≤ n - 8 ∨
        boundedRead config logs cursor.attributes value.2 mtype (cursor.p + 8) value.1 ≤ n - 8
  else fixedRead logs mtype ≤ n - 6

/-- The length is more than is left, or that of a header and the value; what is refused by its
flags or its vendor may be shorter. -/
def AvpSound (config : Config) (logs : Bool) (cursor : Cursor) : Prop :=
  let n := avpLength cursor.memory cursor.p
  cursor.l < n ∨ 2 ≤ n ∧ (cursor.memory cursor.p &&& 0x3C ≠ 0 ∨
    4 ≤ n ∧ (ntohs cursor.memory (cursor.p + 2) ≠ 0 ∨ 6 ≤ n ∧ ValueSound config logs cursor))

/-- What an accepted message says about its length is what was received, or less, and its AVPs
have the lengths that they should have. -/
structure ParsedSound (config : Config) (logs : Bool) (endpoint : Endpoint) (memory : Memory)
    (buf len : Nat) : Prop where
  length : (readHeader memory buf len).isSome → hasLength (memory buf) →
    ntohs memory (buf + 2) ≤ len
  avps : ∀ header, readHeader memory buf len = some header → isControlHeader (memory buf) →
    ∀ cursor, (avpLoop config bufferRoom).Reaches (startAvps memory header endpoint) cursor →
      cursor.goesOn → AvpSound config logs cursor

variable {config : Config} {logs : Bool} {attributes : Attributes} {memory : Memory}
  {cursor : Cursor}

theorem Access.inside_iff {p n k count : Nat} :
    Access.Inside p n ⟨p + k, count⟩ ↔ k + count ≤ n := by
  simp only [Access.Inside]
  omega

theorem fixedRead_le (mtype : Nat) : fixedRead logs mtype ≤ 4 := by
  unfold fixedRead
  split <;> first | omega | split <;> omega

/-- Options are looked at up to the end. -/
theorem lcpRead_le (memory : Memory) (e p : Nat) : lcpRead memory e p ≤ e - p := by
  induction p using lcpRead.induct memory e with
  | case1 p length inside fits ih =>
      rw [lcpRead, if_pos inside, if_pos fits]
      have nonempty := fits.1
      have last := fits.2
      refine Nat.max_le.mpr ⟨by split <;> omega, ?_⟩
      change lcpRead memory e (p + (memory (p + 1)).toNat) ≤ e - (p + length) at ih
      split <;> omega
  | case2 p length inside stops =>
      rw [lcpRead, if_pos inside, if_neg stops]
      omega
  | case3 p outside =>
      rw [lcpRead, if_neg outside]
      exact Nat.zero_le _

theorem boundedRead_le (mtype b n : Nat) :
    boundedRead config logs attributes memory mtype b n ≤ n := by
  have options := lcpRead_le memory (b + n) b
  unfold boundedRead
  split <;> first | omega | split_ifs <;> omega

theorem valueAccesses_inside {p n k mtype size : Nat} :
    (∀ access ∈ valueAccesses config logs attributes memory mtype (p + k) size,
      access.Inside p n) ↔
      k + fixedRead logs mtype ≤ n ∧
        k + boundedRead config logs attributes memory mtype (p + k) size ≤ n := by
  simp only [valueAccesses, List.forall_mem_cons, Access.inside_iff, List.not_mem_nil,
    false_imp_iff, implies_true, and_true]

theorem hiddenAccesses_inside {p n mtype : Nat} (header : 6 ≤ n) :
    (∀ access ∈ hiddenAccesses config logs attributes memory mtype (p + 6) (n - 6),
      access.Inside p n) ↔
      (config.l2tpSecret = [] ∨ attributes.randomVector = [] ∨ n < 14 ∨
        let value := hiddenValue config attributes.randomVector memory mtype (p + 6) (n - 6)
        n - 4 < value.1 ∨ value.1 ≤ n - 8 ∨
          boundedRead config logs attributes value.2 mtype (p + 8) value.1 ≤ n - 8) := by
  have short : n - 6 < 8 ↔ n < 14 := by omega
  simp only [hiddenAccesses, short]
  by_cases refused : config.l2tpSecret = [] ∨ attributes.randomVector = [] ∨ n < 14
  · rw [if_pos refused]
    refine iff_of_true (by simp) ?_
    tauto
  rw [if_neg refused]
  simp only [not_or] at refused
  simp only [refused, false_or]
  generalize hiddenValue config attributes.randomVector memory mtype (p + 6) (n - 6) = value
  have long : 14 ≤ n := Nat.not_lt.mp refused.2.2
  have whole : 6 + (n - 6) ≤ n := by omega
  have shifted : n - 6 + 2 = n - 4 := by omega
  simp only [List.forall_mem_cons, Access.inside_iff, whole, true_and, shifted]
  by_cases tooLong : n - 4 < value.1
  · simp [tooLong]
  simp only [tooLong, ↓reduceIte, false_or]
  refine (valueAccesses_inside (k := 8)).trans ?_
  have fixed := @fixedRead_le logs mtype
  have bounded := @boundedRead_le config logs attributes value.2 mtype (p + 8) value.1
  omega

theorem avpInside_iff (some : cursor.l ≠ 0) :
    AvpInside config logs cursor ↔ AvpSound config logs cursor := by
  have small := avpLength_lt cursor.memory cursor.p
  have first : Access.Inside cursor.p (avpLength cursor.memory cursor.p) ⟨cursor.p, 2⟩ ↔
      2 ≤ avpLength cursor.memory cursor.p :=
    Access.inside_iff (k := 0)
  simp only [AvpInside, AvpSound, avpAccesses, List.forall_mem_cons, first]
  by_cases rejected : cursor.l < avpLength cursor.memory cursor.p
  · simp only [rejected, true_or, ↓reduceIte, iff_true]
    exact ⟨by omega, by simp⟩
  simp only [rejected, false_or]
  refine and_congr_right fun _ => ?_
  by_cases reserved : cursor.memory cursor.p &&& 0x3C ≠ 0
  · simp [reserved]
  simp only [reserved, ↓reduceIte, List.forall_mem_cons, Access.inside_iff, false_or]
  refine and_congr_right fun _ => ?_
  by_cases vendor : ntohs cursor.memory (cursor.p + 2) ≠ 0
  · simp [vendor]
  simp only [vendor, ↓reduceIte, List.forall_mem_cons, Access.inside_iff, false_or]
  refine and_congr_right fun header => ?_
  have value : withoutHeader (avpLength cursor.memory cursor.p) =
      avpLength cursor.memory cursor.p - 6 :=
    withoutHeader_of_le header small
  simp only [value, ValueSound]
  by_cases hidden : cursor.memory cursor.p &&& 0x40 ≠ 0
  · rw [if_pos hidden, if_pos hidden]
    exact hiddenAccesses_inside header
  · rw [if_neg hidden, if_neg hidden]
    refine valueAccesses_inside.trans ?_
    have bounded := @boundedRead_le config logs cursor.attributes cursor.memory
      (ntohs cursor.memory (cursor.p + 4)) (cursor.p + 6) (avpLength cursor.memory cursor.p - 6)
    omega

theorem messageLength_le {buf len : Nat} :
    messageLength memory buf len ≤ len ↔
      (hasLength (memory buf) → ntohs memory (buf + 2) ≤ len) := by
  have received := Nat.mod_le len (2 ^ 16)
  rw [messageLength]
  split
  case isTrue given => exact ⟨fun fits _ => fits, fun fits => fits given⟩
  case isFalse absent => exact iff_of_true received fun given => absurd given absent

theorem payload_inside_iff {buf len : Nat} {header : Header}
    (accepted : readHeader memory buf len = some header) :
    header.p + header.l ≤ buf + len ↔
      (hasLength (memory buf) → ntohs memory (buf + 2) ≤ len) := by
  rw [(readHeader_payload accepted).2, ← messageLength_le]
  exact Nat.add_le_add_iff_left

/-- **Messages in bounds.** An accepted message ends inside of what was received, and each of its
AVPs is handled inside of its own bytes, exactly if the length field of the header is not more than
the bytes received and the AVPs are as long as what is read from them. -/
theorem messages_inside_iff (config : Config) (logs : Bool) (endpoint : Endpoint) (memory : Memory)
    (buf len : Nat) :
    ParsedInside config logs endpoint memory buf len ↔
      ParsedSound config logs endpoint memory buf len := by
  have some (cursor : Cursor) (goesOn : cursor.goesOn) : cursor.l ≠ 0 := by
    simp only [Cursor.goesOn, Bool.and_eq_true, decide_eq_true_eq] at goesOn
    exact goesOn.1
  constructor
  · intro inside
    constructor
    · intro accepted
      obtain ⟨header, read⟩ := Option.isSome_iff_exists.mp accepted
      exact (payload_inside_iff read).mp (inside.payload header read)
    · intro header read control cursor reaches goesOn
      exact (avpInside_iff (some cursor goesOn)).mp
        (inside.avps header read control cursor reaches goesOn)
  · intro sound
    constructor
    · intro header read
      exact (payload_inside_iff read).mpr (sound.length (by simp [read]))
    · intro header read control cursor reaches goesOn
      exact (avpInside_iff (some cursor goesOn)).mpr
        (sound.avps header read control cursor reaches goesOn)

/-- A data message of eight bytes with a length field of 65535. -/
def overlong : Memory := fun k =>
  ([0x40, 0x02, 0xFF, 0xFF, 0x00, 0x02, 0x00, 0x02][k]?).getD 0

/-- The length field of an accepted message is not compared with what was received. -/
theorem message_outside : ¬ ∀ (config : Config) (logs : Bool) (endpoint : Endpoint)
    (memory : Memory) (buf len : Nat), ParsedInside config logs endpoint memory buf len := by
  intro inside
  have read : readHeader overlong 0 8 = some ⟨2, 2, 0, 0, 8, 65527⟩ := by decide
  have ends := (inside ⟨[], fun _ _ => 0⟩ false plainEndpoint overlong 0 8).payload _ read
  exact absurd ends (by decide)

end L2tpns.L2tp
