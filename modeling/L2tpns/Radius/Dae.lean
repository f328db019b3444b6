import L2tpns.Radius.Request
import L2tpns.Server.Filters

/-! # Requests to change or to end a session

`processdae` takes a Disconnect or a CoA request apart, finds the session that it names by
number, by address or by user, and shuts it down or changes its filters. The answer is an
ACK or a NAK with the cause of an error. Besides its result each step keeps whether the
accesses so far were inside of what was received and of the attribute that they are for.
-/

namespace L2tpns.Radius

open Avp (Memory readBytes ntohs ntohl)
open Server (State InAddr cString findFilter filterSession maxSession maxUser sessionbyip
  sessionshutdown)

def disconnectRequest : UInt8 := 40

def disconnectACK : UInt8 := 41

def disconnectNAK : UInt8 := 42

def coARequest : UInt8 := 43

def coAACK : UInt8 := 44

def coANAK : UInt8 := 45

/-- What a request is handled with. Plugins are given the session; `behindIn` and
`behindOut` are the bytes of the memory behind the texts `.in` and `.out`. -/
structure DaeServer extends Config where
  iamMaster : Bool
  bindAddress : InAddr
  behindIn : Nat → UInt8
  behindOut : Nat → UInt8
  radiusReset : State → Nat → State
  radiusResponse : State → Nat → Memory → List UInt8 → State

/-- The digest of a packet of `len` bytes. The bytes behind its header are counted in a
number of 64 bits. -/
def calcAuth (config : Config) (memory : Memory) (len : Nat) (vector : List UInt8) :
    Fin 16 → UInt8 :=
  config.md5 (readBytes memory 0 4 ++ vector ++
    readBytes memory headerSize ((len + 2 ^ 64 - headerSize) % 2 ^ 64) ++ config.radiussecret)

/-- The variables that attributes are taken into. `inside` says whether every access so far
was where it may be. -/
structure Unpacked where
  username : List UInt8
  ip : InAddr
  port : Nat
  error : Nat
  fin : Int
  fout : Int
  avpairs : List (Nat × Nat)
  authOnly : Bool
  inside : Bool
deriving DecidableEq, Repr

def Unpacked.initial : Unpacked where
  username := []
  ip := 0
  port := 0
  error := 0
  fin := -1
  fout := -1
  avpairs := []
  authOnly := false
  inside := true

/-- Note whether an access was where it may be. -/
def Unpacked.note (unpacked : Unpacked) (within : Prop) [Decidable within] : Unpacked :=
  { unpacked with inside := unpacked.inside && within }

/-- A text with its terminator and what is in the memory behind it. -/
def literal (string : String) (behind : Nat → UInt8) : Memory := fun k =>
  ((text string ++ [0])[k]?).getD (behind k)

/-- `memcmp` of two pieces of memory that finds no difference. -/
def memcmpEq (memory : Memory) (p : Nat) (other : Memory) (n : Nat) : Bool :=
  readBytes memory p n = readBytes other 0 n

/-- The filter that a Filter-Id names, by its position, and the side it is for. -/
def filterIdOf (server : DaeServer) (st : State) (memory : Memory) (packet n : Nat) :
    Option (Nat × Server.FilterSide) :=
  match (readBytes memory packet n).findIdx? (· = 46) with
  | none => none
  | some len =>
      match findFilter st (readBytes memory packet len) with
      | none => none
      | some i =>
          if memcmpEq memory (packet + len) (literal ".in" server.behindIn) (n - len) then
            some (i, .inbound)
          else if memcmpEq memory (packet + len) (literal ".out" server.behindOut) (n - len) then
            some (i, .outbound)
          else none

/-- `sizeof(avpair)/sizeof(*avpair)` -/
def avpairSize : Nat := 64

/-- Unpack an attribute, the value of which has `n` bytes, in a packet of which `received`
bytes are there. -/
def unpackAttribute (server : DaeServer) (st : State) (memory : Memory) (received : Nat)
    (type : UInt8) (packet n : Nat) (unpacked : Unpacked) : Unpacked :=
  -- the first bytes of the value
  let within (count : Nat) : Prop := count ≤ n ∧ packet + count ≤ received
  match type.toNat with
  | 1 =>
      let len := if n < maxUser then n else maxUser - 1
      { unpacked with username := cString (readBytes memory packet len) }.note (within len)
  | 4 =>
      let nas := UInt32.ofNat (ntohl memory packet)
      { unpacked with
        error := if nas ≠ server.bindAddress then 403 else unpacked.error }.note (within 4)
  | 5 =>
      let port := ntohl memory packet
      { unpacked with
        port := port
        error := if port < 1 ∨ maxSession < port then 404 else unpacked.error }.note (within 4)
  | 6 => { unpacked with authOnly := ntohl memory packet = 8 }.note (within 4)
  | 8 => { unpacked with ip := UInt32.ofNat (ntohl memory packet) }.note (within 4)
  | 11 =>
      match filterIdOf server st memory packet n with
      | some (i, .inbound) => { unpacked with fin := i + 1 }.note (within n)
      | some (i, .outbound) => { unpacked with fout := i + 1 }.note (within n)
      | none => { unpacked with error := 404 }.note (within n)
  | 26 =>
      if n < 6 then unpacked
      else if ntohl memory packet ≠ 9 then unpacked.note (within 4)
      else if memory (packet + 4) ≠ 1 then unpacked.note (within 5)
      else if (memory (packet + 5)).toNat < 2 then unpacked.note (within 6)
      else
        -- the length of the pair is not compared with that of the attribute
        let len := (memory (packet + 5)).toNat - 2
        let pair := if unpacked.avpairs.length < avpairSize - 1 then [(packet + 6, len)] else []
        { unpacked with avpairs := unpacked.avpairs ++ pair }.note (within (6 + len))
  | _ => unpacked

/-- Unpack the attributes from `packet` on, of which `length` bytes are left. -/
def unpack (server : DaeServer) (st : State) (memory : Memory) (received length packet : Nat)
    (unpacked : Unpacked) : Unpacked :=
  if length = 0 then unpacked
  else
    let attributeLength := (memory (packet + 1)).toNat
    let noted := unpacked.note (packet + 2 ≤ received)
    if attributeLength < 2 then noted
    else
      unpack server st memory received (length - attributeLength) (packet + attributeLength)
        (unpackAttribute server st memory received (memory packet) (packet + 2)
          (attributeLength - 2) noted)
termination_by length

/-- The session, the error and whether tables were read inside their bounds. -/
structure Selected where
  s : Nat
  error : Nat
  inside : Bool
deriving DecidableEq, Repr

/-- The first open session of a user that is not in a walled garden. -/
def sessionbyuser (st : State) (username : List UInt8) : Nat :=
  (((List.range (st.highestSessionid + 1)).drop 1).find? fun s =>
    (st.session s).opened ≠ 0 ∧ ¬ (st.session s).walledGarden ∧
      (st.session s).user = username).getD 0

/-- The error after the attributes: one of theirs, a service that is not there, or nothing
that names a session. -/
def Unpacked.refusal (unpacked : Unpacked) : Nat :=
  if unpacked.error ≠ 0 then unpacked.error
  else if unpacked.authOnly then
    if unpacked.fin ≠ -1 ∨ unpacked.fout ≠ -1 ∨ unpacked.avpairs ≠ [] then 401 else 405
  else if unpacked.port = 0 ∧ unpacked.ip = 0 ∧ unpacked.username = [] then 402
  else 0

/-- Exact match for the number of the session, if it is given. -/
def selectPort (st : State) (unpacked : Unpacked) : Selected :=
  if unpacked.refusal = 0 ∧ unpacked.port ≠ 0 then
    let s := unpacked.port % 2 ^ 16
    ⟨s, if (st.session s).opened = 0 then 503 else 0, s < maxSession⟩
  else ⟨0, unpacked.refusal, true⟩

/-- Find or check the session by address. -/
def selectIp (st : State) (unpacked : Unpacked) (selected : Selected) : Selected :=
  if selected.error = 0 ∧ unpacked.ip ≠ 0 then
    let i := sessionbyip st unpacked.ip
    if i = 0 ∨ selected.s ≠ 0 ∧ selected.s ≠ i then { selected with error := 503 }
    else { selected with s := i }
  else selected

/-- Find or check the session by user. -/
def selectUser (st : State) (unpacked : Unpacked) (selected : Selected) : Selected :=
  if selected.error = 0 ∧ unpacked.username ≠ [] then
    if selected.s ≠ 0 then
      { selected with
        error := if (st.session selected.s).user ≠ unpacked.username then 503 else 0 }
    else
      let s := sessionbyuser st unpacked.username
      { selected with s := s, error := if s = 0 then 503 else 0 }
  else selected

def selectSession (st : State) (unpacked : Unpacked) : Selected :=
  selectUser st unpacked (selectIp st unpacked (selectPort st unpacked))

/-- A pair of a key and a value in the packet, both terminated in place; a key without a value
ends somewhere behind. The key is a place in the memory. None if the value is too long. -/
def splitAvpair (memory : Memory) (avp len : Nat) : Option (Memory × List UInt8) × Memory :=
  match (readBytes memory avp len).findIdx? (· = 61) with
  | none => (some (fun k => memory (avp + k), []), memory)
  | some key =>
      let split := Function.update memory (avp + key) 0
      let value := avp + key + 1
      let size := len - (key + 1)
      -- strip quotes
      if 2 < size ∧ (split value = 34 ∨ split value = 39) ∧
          split (value + size - 1) = split value then
        let stripped := Function.update split (value + size - 1) 0
        (some (fun k => stripped (avp + k),
          cString (readBytes stripped (value + 1) (size - 2))), stripped)
      else if size < 2047 then
        (some (fun k => split (avp + k), cString (readBytes split value size)), split)
      else (none, split)

/-- Run the plugins for a pair. -/
def handleAvpair (server : DaeServer) (st : State) (memory : Memory) (s avp len : Nat) :
    State × Memory :=
  let pair := splitAvpair memory avp len
  (pair.1.elim st fun pair => server.radiusResponse st s pair.1 pair.2, pair.2)

/-- A CoA request for session `s`: reset it, apply the filters and process the pairs. -/
def changeSession (server : DaeServer) (st : State) (memory : Memory) (unpacked : Unpacked)
    (s : Nat) : State :=
  let reset := server.radiusReset st s
  let filtered := filterSession reset s (if unpacked.fin = -1 then 0 else unpacked.fin)
    (if unpacked.fout = -1 then 0 else unpacked.fout)
  let handled := unpacked.avpairs.foldl (fun handled pair =>
    handleAvpair server handled.1 handled.2 s pair.1 pair.2) (filtered, memory)
  handled.1.emit (.clusterSession s)

/-- What a request without an error does to session `s`. -/
def applyRequest (server : DaeServer) (st : State) (memory : Memory) (unpacked : Unpacked)
    (s : Nat) : State :=
  if memory 0 = disconnectRequest then
    sessionshutdown st s "Requested by PoD" 3 0 (some .adminReset)
  else changeSession server st memory unpacked s

/-- The answer with the cause of an error; `hash` is the digest of the request. -/
def daeResponse (config : Config) (code id : UInt8) (error : Nat) (hash : Fin 16 → UInt8) :
    List UInt8 :=
  let attributes := if error = 0 then [] else [101, 6] ++ be32 (UInt32.ofNat error)
  let header := [code, id] ++ be16 (headerSize + attributes.length)
  header ++ List.ofFn (config.md5 (header ++ List.ofFn hash ++ attributes ++
    config.radiussecret)) ++ attributes

/-- How a request is handled: the tables, the answer, if there is one, whether the master is
to handle it, and whether every access was where it may be. -/
structure DaeHandled where
  st : State
  response : Option (List UInt8)
  forwarded : Bool
  inside : Bool

/-- Handle a request of `len` bytes. -/
def processdae (server : DaeServer) (st : State) (memory : Memory) (len : Nat) : DaeHandled :=
  if len < headerSize ∨ len < ntohs memory 2 then ⟨st, none, false, true⟩
  else if memory 0 ≠ disconnectRequest ∧ memory 0 ≠ coARequest then ⟨st, none, false, true⟩
  else if ¬ server.iamMaster then ⟨st, none, true, true⟩
  else
    let size := ntohs memory 2
    let hash := calcAuth server.toConfig memory size (List.replicate 16 0)
    let hashed : Bool := headerSize ≤ size
    if List.ofFn hash ≠ readBytes memory 4 16 then ⟨st, none, false, hashed⟩
    else
      let unpacked := unpack server st memory len (size - headerSize) headerSize .initial
      let selected := selectSession st unpacked
      let inside := hashed && unpacked.inside && selected.inside
      let isDisconnect := memory 0 = disconnectRequest
      if selected.error ≠ 0 then
        ⟨st, some (daeResponse server.toConfig (if isDisconnect then disconnectNAK else coANAK)
          (memory 1) selected.error hash), false, inside⟩
      else
        ⟨applyRequest server st memory unpacked selected.s,
          some (daeResponse server.toConfig (if isDisconnect then disconnectACK else coAACK)
            (memory 1) 0 hash), false, inside⟩

end L2tpns.Radius
