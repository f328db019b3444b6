import L2tpns.Channel.Control
import L2tpns.Constants
import L2tpns.Foundation.WhileLoop

/-! # The attributes of a control message

The body of a control message is a sequence of AVPs. `processudp` walks over them
with a pointer `p` into the receive buffer and the count `l` of bytes left, which
is taken from the header of the message. Deciphering a hidden AVP rewrites its
value in the buffer. Memory is what can be read from the start of the body on; a
write behind the end of the buffer is an outcome of its own, because nothing is
known about the program after it.
-/

namespace L2tpns.Avp

open Foundation

/-- Bytes by their distance from the start of the body. -/
abbrev Memory := Nat → UInt8

def ntohs (memory : Memory) (p : Nat) : Nat :=
  (memory p).toNat * 2 ^ 8 + (memory (p + 1)).toNat

def ntohl (memory : Memory) (p : Nat) : Nat :=
  ntohs memory p * 2 ^ 16 + ntohs memory (p + 2)

/-- `n` bytes from `b` on. -/
def readBytes (memory : Memory) (b n : Nat) : List UInt8 :=
  (List.range n).map fun k => memory (b + k)

/-- Copy into a zeroed array of `size` bytes, leaving room for the terminator. -/
def copyString (size : Nat) (memory : Memory) (b n : Nat) : List UInt8 :=
  readBytes memory b (if n < size then n else size - 1)

def writeBytes (memory : Memory) (b : Nat) (bytes : List UInt8) : Memory := fun k =>
  if b ≤ k then (bytes[k - b]?).getD (memory k) else memory k

/-- `MAXTEL`, also the size of the random vector. -/
def maxTel : Nat := 96

/-- Bytes of the receive buffer from the body of a control message on, at most:
the buffer less the room for a forwarding header and the header of the message. -/
def bufferRoom : Nat := 65536 - 32 - 12

/-- The body of a control message. The length is what its header says it is. -/
structure ControlBody where
  memory : Memory
  length : Nat
  room : Nat
  length_lt : length < 2 ^ 16
  room_le : room ≤ bufferRoom

/-- The secret shared with the peer, empty if there is none, and the digest. -/
structure Config where
  l2tpSecret : List UInt8
  md5 : List UInt8 → Fin 16 → UInt8

/-- The fields of the tunnel and the session that a control message is for. -/
structure Endpoint where
  hostname : List UInt8
  vendor : List UInt8
  tunnelFar : Nat
  isremotelns : Bool
  channel : Channel.Tunnel (List UInt8)
  sessionFar : Nat
  randomVector : List UInt8
  txConnectSpeed : Nat
  rxConnectSpeed : Nat

/-- What the AVPs set: those fields and the variables of `processudp`. -/
structure Attributes extends Endpoint where
  message : Nat
  fatal : UInt8
  mandatory : UInt8
  result : Nat
  error : Nat
  msg : Option String
  asession : Nat
  amagic : Nat
  aflags : Nat
  version : Nat
  called : List UInt8
  calling : List UInt8
  discCauseSet : Nat
  discCause : TermCause
  discReason : String
  sendchalresponse : Option (Fin 16 → UInt8)
  recvchalresponse : Option (List UInt8)

/-- The variables before the first AVP. -/
def Attributes.initial (endpoint : Endpoint) : Attributes where
  toEndpoint := endpoint
  message := 0xFFFF
  fatal := 0
  mandatory := 0
  result := 0
  error := 0
  msg := none
  asession := 0
  amagic := 0
  aflags := 0
  version := 0x0100
  called := []
  calling := []
  discCauseSet := 0
  discCause := .nasRequest
  discReason := "Closed (Received CDN)."
  sendchalresponse := none
  recvchalresponse := none

/-- Why an AVP is refused: result and error of the `StopCCN`, and its message. -/
structure Refusal where
  result : Nat
  error : Nat
  msg : Option String
deriving DecidableEq, Repr

/-- Note a refused AVP; it is fatal if its flags have the mandatory bit. -/
def Attributes.refuse (attributes : Attributes) (flags : UInt8) (refusal : Refusal) :
    Attributes :=
  { attributes with
    fatal := flags
    result := refusal.result
    error := refusal.error
    msg := refusal.msg }

def isMandatory (flags : UInt8) : Bool := flags &&& 0x80 ≠ 0

/-- The length field, with the header. -/
def avpLength (memory : Memory) (p : Nat) : Nat := ntohs memory p % 2 ^ 10

/-- A digest has 16 bytes. -/
instance digest_neZero : NeZero 16 := ⟨by decide⟩

/-- Decipher the bytes that are left. `block` is what was deciphered since the
pad was last computed, which the next pad is computed from. -/
def unhideFrom (config : Config) :
    List UInt8 → (Fin 16 → UInt8) → Nat → List UInt8 → List UInt8
  | [], _, _, _ => []
  | byte :: rest, digest, d, block =>
      if 16 ≤ d then
        let pad := config.md5 (config.l2tpSecret ++ block)
        let plain := byte ^^^ pad 0
        plain :: unhideFrom config rest pad 1 [plain]
      else
        let plain := byte ^^^ digest (Fin.ofNat 16 d)
        plain :: unhideFrom config rest digest (d + 1) (block ++ [plain])

def unhideValue (config : Config) (value : List UInt8) (mtype : Nat) (vector : List UInt8) :
    List UInt8 :=
  let type := [UInt8.ofNat (mtype / 2 ^ 8), UInt8.ofNat mtype]
  unhideFrom config value (config.md5 (type ++ config.l2tpSecret ++ vector)) 0 []

/-- What is found at the pointer, with the deciphered bytes of a hidden AVP, which
take the place of its value. -/
inductive Reading where
  | refused (refusal : Refusal) (plain : List UInt8)
  | overrun
  | value (mtype b n : Nat) (plain : List UInt8)

/-- The length without the header, as an `uint16_t`. -/
def withoutHeader (n : Nat) : Nat := (n + 2 ^ 16 - 6) % 2 ^ 16

/-- Make the value of a hidden AVP readable. -/
def readHidden (config : Config) (room : Nat) (vector : List UInt8) (memory : Memory)
    (mtype b n : Nat) : Reading :=
  if config.l2tpSecret = [] then .refused ⟨2, 6, some "secret not specified"⟩ []
  else if vector = [] then .refused ⟨2, 6, some "no random vector"⟩ []
  else if n < 8 then .refused ⟨2, 2, none⟩ []
  else if room < b + n then .overrun
  else
    let plain := unhideValue config (readBytes memory b n) mtype vector
    let origLen := ntohs (writeBytes memory b plain) b
    if n + 2 < origLen then .refused ⟨2, 2, none⟩ plain
    else .value mtype (b + 2) origLen plain

/-- Read the AVP at `p`, whose length field is `n`, up to its value. -/
def readAvp (config : Config) (room : Nat) (vector : List UInt8) (memory : Memory) (p n : Nat) :
    Reading :=
  let flags := memory p
  if flags &&& 0x3C ≠ 0 then .refused ⟨2, 3, none⟩ []
  else if ntohs memory (p + 2) ≠ 0 then .refused ⟨2, 6, some "unsupported vendor-specific"⟩ []
  else
    let mtype := ntohs memory (p + 4)
    if flags &&& 0x40 ≠ 0 then
      readHidden config room vector memory mtype (p + 6) (withoutHeader n)
    else .value mtype (p + 6) (withoutHeader n) []

/-- Leading decimal digits as a number. -/
def digits : List UInt8 → Nat → Nat
  | [], value => value
  | char :: rest, value =>
      if 48 ≤ char ∧ char ≤ 57 then digits rest (value * 10 + (char.toNat - 48)) else value

/-- `atol`: blanks, a sign, digits; out of range it is the nearest `long`. -/
def atol (text : List UInt8) : Int :=
  match text.dropWhile fun char => char = 32 ∨ (9 ≤ char ∧ char ≤ 13) with
  | 45 :: rest => max (-(digits rest 0 : Int)) (-2 ^ 63)
  | 43 :: rest => min (digits rest 0 : Int) (2 ^ 63 - 1)
  | rest => min (digits rest 0 : Int) (2 ^ 63 - 1)

def connectSpeed (memory : Memory) (b n : Nat) : Nat :=
  if n = 4 then ntohl memory b
  else (atol (copyString 30 memory b n) % 2 ^ 32).toNat

/-- Answer to a challenge of the peer, if there is a secret to answer with. -/
def buildChapResponse (config : Config) (challenge : List UInt8) (id : UInt8) :
    Option (Fin 16 → UInt8) :=
  if config.l2tpSecret = [] then none
  else some (config.md5 ([id] ++ config.l2tpSecret ++ challenge))

def protocolVersion (flags : UInt8) (memory : Memory) (b : Nat) (attributes : Attributes) :
    Attributes :=
  let version := ntohs memory b
  let noted := { attributes with version := version }
  if version ≠ 0 ∧ version ≠ 0x0100 then noted.refuse flags ⟨5, 0x0100, none⟩ else noted

/-- Request Challenge, answered in an `SCCRP` or an `SCCCN`. -/
def requestChallenge (config : Config) (memory : Memory) (b n : Nat) (attributes : Attributes) :
    Attributes :=
  if attributes.message = 1 then
    { attributes with sendchalresponse := buildChapResponse config (readBytes memory b n) 2 }
  else if attributes.message = 2 then
    { attributes with sendchalresponse := buildChapResponse config (readBytes memory b n) 3 }
  else attributes

/-- Challenge Response, expected from a remote LNS only. -/
def challengeResponse (memory : Memory) (b n : Nat) (attributes : Attributes) : Attributes :=
  if attributes.isremotelns then
    { attributes with recvchalresponse := some (copyString 17 memory b n) }
  else attributes

/-- Options of the last sent LCP request from `p` up to `e`: the magic number and
the compressions. -/
def lastSentLcp (memory : Memory) (e p : Nat) (attributes : Attributes) : Attributes :=
  let length := (memory (p + 1)).toNat
  if p + 1 < e ∧ length ≠ 0 ∧ p + length ≤ e then
    lastSentLcp memory e (p + length)
      (if memory p = 5 ∧ length = 6 then { attributes with amagic := ntohl memory (p + 2) }
      else if memory p = 7 then { attributes with aflags := attributes.aflags ||| 1 }
      else if memory p = 8 then { attributes with aflags := attributes.aflags ||| 2 }
      else attributes)
  else attributes
termination_by e - p

/-- Result Code: the reason, unless a disconnect cause has given one. -/
def resultCode (memory : Memory) (b n : Nat) (attributes : Attributes) : Attributes :=
  let rescode := ntohs memory b
  let errdesc := if 4 ≤ n then some (l2tpErrorCode (ntohs memory (b + 2))) else none
  let found : Option (String × TermCause) :=
    if attributes.message = 4 then some (l2tpStopccnResultCode rescode, .lostService)
    else if attributes.message = 14 then
      some (l2tpCdnResultCode rescode, if rescode = 1 then .lostCarrier else .adminReset)
    else none
  match found with
  | some (resdesc, cause) =>
      if attributes.discCauseSet < 1 then
        { attributes with
          discCauseSet := 1
          discCause := cause
          discReason := errdesc.getD resdesc }
      else attributes
  | none => attributes

/-- Cause and reason for a PPP disconnect cause code, if it has one. -/
def disconnectReason (code : Nat) (dir : UInt8) : Option (TermCause × String) :=
  match code with
  | 1 => some (.adminReset, "Administrative disconnect")
  | 3 => if dir ≠ 2 then none else some (.userRequest, "Normal disconnection")
  | 4 => if dir ≠ 1 then none else some (.userError, "Compulsory encryption refused")
  | 5 => some (.portError, "LCP: FSM timeout")
  | 6 => some (.portError, "LCP: no recognisable LCP packets")
  | 7 => some (.portError, "LCP: magic-no error (possible loop)")
  | 8 => some (.portError, "LCP: echo request timeout")
  | 13 => some (.serviceUnavailable, "Authentication: FSM timeout")
  | 15 => some (.serviceUnavailable, "Unacceptable authentication protocol")
  | 16 => some (.serviceUnavailable, "Authentication failed")
  | 17 => some (.serviceUnavailable, "NCP: FSM timeout")
  | 18 => some (.serviceUnavailable, "NCP: no NCPs available")
  | 19 => some (.serviceUnavailable,
      if dir = 1 then "NCP: too many Configure-Naks received from peer"
      else "NCP: too many Configure-Naks sent to peer")
  | 20 => some (.serviceUnavailable,
      if dir = 1 then "NCP: local link address not acceptable to peer"
      else "NCP: remote link address not acceptable")
  | _ => none

def disconnectCause (memory : Memory) (b n : Nat) (attributes : Attributes) : Attributes :=
  if 5 ≤ n then
    let (cause, reason) := (disconnectReason (ntohs memory b) (memory (b + 4))).getD
      (attributes.discCause, attributes.discReason)
    { attributes with discCauseSet := 46, discCause := cause, discReason := reason }
  else attributes

/-- Four hexadecimal digits. -/
def hex4 (value : Nat) : String :=
  String.ofList ([12, 8, 4, 0].map fun shift => Nat.digitChar (value / 2 ^ shift % 16))

/-- The value of an AVP that was read; an unknown type is refused here. -/
def processAvp (config : Config) (flags : UInt8) (mtype b n : Nat) (memory : Memory)
    (attributes : Attributes) : Attributes :=
  match mtype with
  | 0 => { attributes with message := ntohs memory b, mandatory := flags &&& 0x80 }
  | 1 => resultCode memory b n attributes
  | 2 => protocolVersion flags memory b attributes
  | 7 => { attributes with hostname := copyString 128 memory b n }
  | 8 => { attributes with vendor := copyString 128 memory b n }
  | 9 => { attributes with tunnelFar := ntohs memory b }
  | 10 => { attributes with channel := Channel.rxWindow attributes.channel (ntohs memory b) }
  | 11 => requestChallenge config memory b n attributes
  | 13 => challengeResponse memory b n attributes
  | 14 => { attributes with asession := ntohs memory b, sessionFar := ntohs memory b }
  | 21 => { attributes with called := copyString maxTel memory b n }
  | 22 => { attributes with calling := copyString maxTel memory b n }
  | 24 => { attributes with txConnectSpeed := connectSpeed memory b n }
  | 38 => { attributes with rxConnectSpeed := connectSpeed memory b n }
  | 27 => lastSentLcp memory (b + n) b attributes
  | 36 => { attributes with randomVector := readBytes memory b (min n maxTel) }
  | 46 => disconnectCause memory b n attributes
  | 3 | 4 | 5 | 6 | 15 | 18 | 19 | 23 | 25 | 26 | 28 | 29 | 30 | 31 | 32 | 33 | 39 => attributes
  | mtype => attributes.refuse flags ⟨2, 8, some ("unknown AVP 0x" ++ hex4 mtype)⟩

/-- The state at the head of the loop. -/
structure Cursor where
  memory : Memory
  p : Nat
  l : Nat
  attributes : Attributes

/-- How the loop is left. -/
inductive Outcome where
  | processed (attributes : Attributes)
  | invalidLength (attributes : Attributes)
  | overrun

/-- The condition of the loop. -/
def Cursor.goesOn (cursor : Cursor) : Bool :=
  cursor.l ≠ 0 && !isMandatory cursor.attributes.fatal

/-- One iteration. -/
def iterate (config : Config) (room : Nat) (cursor : Cursor) : Outcome ⊕ Cursor :=
  if !cursor.goesOn then .inl (.processed cursor.attributes)
  else
    let n := avpLength cursor.memory cursor.p
    let b := cursor.p + 6
    let flags := cursor.memory cursor.p
    if cursor.l < n then .inl (.invalidLength cursor.attributes)
    else
      let next := { cursor with p := cursor.p + n, l := cursor.l - n }
      match readAvp config room cursor.attributes.randomVector cursor.memory cursor.p n with
      | .refused refusal plain =>
          .inr { next with
            memory := writeBytes cursor.memory b plain
            attributes := cursor.attributes.refuse flags refusal }
      | .overrun => .inl .overrun
      | .value mtype b' n plain =>
          let memory := writeBytes cursor.memory b plain
          .inr { next with
            memory := memory
            attributes := processAvp config flags mtype b' n memory cursor.attributes }

def avpLoop (config : Config) (room : Nat) : WhileLoop Cursor Outcome where
  iterate := iterate config room

/-- The loop before its first iteration. -/
def Cursor.start (body : ControlBody) (endpoint : Endpoint) : Cursor where
  memory := body.memory
  p := 0
  l := body.length
  attributes := Attributes.initial endpoint

end L2tpns.Avp
