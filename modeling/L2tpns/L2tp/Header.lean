import L2tpns.Avp.Process
import L2tpns.Server.State

/-! # The header of an L2TP message

`processudp` reads the header of a message at `buf` with the optional parts that its flags ask
for, and is left with a pointer to the payload and a count of bytes. The count is that of the
length field, if there is one.
-/

namespace L2tpns.L2tp

open Avp (Memory readBytes ntohs)
open Server (maxSession maxTunnel tunnelIdPppoe)

def isControl (flags : UInt8) : Bool := flags &&& 0x80 ≠ 0
def hasLength (flags : UInt8) : Bool := flags &&& 0x40 ≠ 0
def hasSequence (flags : UInt8) : Bool := flags &&& 0x08 ≠ 0
def hasOffset (flags : UInt8) : Bool := flags &&& 0x02 ≠ 0

/-- The flags of a control message: type, length and sequence, and no offset and priority. -/
def isControlHeader (flags : UInt8) : Bool := flags &&& 0xCB = 0xC8

/-- The tunnel, the session, the sequence numbers, the pointer to the payload and the count of its
bytes. -/
structure Header where
  t : Nat
  s : Nat
  ns : Nat
  nr : Nat
  p : Nat
  l : Nat
deriving DecidableEq, Repr

/-- The length of the message at `buf`, of which `len` bytes were received, as an `uint16_t`. -/
def messageLength (memory : Memory) (buf len : Nat) : Nat :=
  if hasLength (memory buf) then ntohs memory (buf + 2) else len % 2 ^ 16

/-- Where the tunnel is. -/
def idsAt (memory : Memory) (buf : Nat) : Nat :=
  if hasLength (memory buf) then buf + 4 else buf + 2

/-- Where the sequence numbers end, or would be. -/
def sequenceEnd (memory : Memory) (buf : Nat) : Nat :=
  if hasSequence (memory buf) then idsAt memory buf + 8 else idsAt memory buf + 4

def payloadAt (memory : Memory) (buf : Nat) : Nat :=
  let p := sequenceEnd memory buf
  if hasOffset (memory buf) then p + ntohs memory p + 2 else p

/-- Read the header of a message. None if it is not accepted. -/
def readHeader (memory : Memory) (buf len : Nat) : Option Header :=
  let flags := memory buf
  let l := messageLength memory buf len
  let ids := idsAt memory buf
  let t := ntohs memory ids
  let s := ntohs memory (ids + 2)
  let p := payloadAt memory buf
  if len < 6 then none
  else if memory (buf + 1) &&& 0x0F ≠ 2 then none
  else if maxSession ≤ s then none
  else if maxTunnel ≤ t then none
  else if t = tunnelIdPppoe then none
  else if l < p - buf then none
  else some {
    t := t
    s := s
    ns := if hasSequence flags then ntohs memory (ids + 4) else 0
    nr := if hasSequence flags then ntohs memory (ids + 6) else 0
    p := p
    l := l - (p - buf) }

variable {memory : Memory} {buf len : Nat} {header : Header}

theorem idsAt_le : buf + 2 ≤ idsAt memory buf ∧ idsAt memory buf ≤ buf + 4 := by
  rw [idsAt]
  split <;> omega

theorem sequenceEnd_le : buf + 6 ≤ sequenceEnd memory buf ∧ sequenceEnd memory buf ≤ buf + 12 := by
  have ids := @idsAt_le memory buf
  rw [sequenceEnd]
  split <;> omega

theorem sequenceEnd_payload : sequenceEnd memory buf ≤ payloadAt memory buf := by
  simp only [payloadAt]
  split <;> omega

theorem readHeader_payload (accepted : readHeader memory buf len = some header) :
    header.p = payloadAt memory buf ∧ header.p + header.l = buf + messageLength memory buf len := by
  have sequence := @sequenceEnd_le memory buf
  have payload := @sequenceEnd_payload memory buf
  simp only [readHeader] at accepted
  split_ifs at accepted with _ _ _ _ _ fits
  all_goals
    obtain rfl := Option.some.inj accepted
    refine ⟨rfl, ?_⟩
    dsimp only
    omega

theorem readHeader_accepts (accepted : readHeader memory buf len = some header) :
    6 ≤ len ∧ memory (buf + 1) &&& 0x0F = 2 ∧
      payloadAt memory buf ≤ buf + messageLength memory buf len := by
  have ends := readHeader_payload accepted
  simp only [readHeader] at accepted
  split_ifs at accepted with short version
  all_goals exact ⟨by omega, not_not.mp version, by omega⟩

end L2tpns.L2tp
