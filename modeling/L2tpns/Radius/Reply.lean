import L2tpns.Radius.Selection

/-! # The attributes of an Access-Accept

`processrad` walks over the attributes of an answer with a pointer and sets fields of the
session. A vendor-specific attribute may hold a pair for a plugin, or an attribute of its own
that the pointer is moved to. Besides its result each step keeps whether the reads so far were
inside of the attribute that they are for. A copy that leaves the field it is for is an outcome
of its own, because nothing is known about the program after it.
-/

namespace L2tpns.Radius

open Avp (Memory readBytes ntohs ntohl)
open Server (State InAddr cString maxRoute maxRoute6 maxSession)

/-- `MAXGARDEN`. -/
def maxGarden : Nat := 16

/-- `MAXCLASS`. -/
def maxClass : Nat := 128

/-- An IPv6 route of a session; the address has 16 bytes. -/
structure Prefix6 where
  ipv6route : List UInt8
  ipv6prefixlen : Nat
deriving DecidableEq, Repr

/-- What is called in the course of an answer. -/
inductive Call where
  | avpair (key : Memory) (value : List UInt8)
  | shutdown (reason : String)
  | tunnelType (tag : UInt8) (type : Nat)
  | tunnelMediumType (tag : UInt8) (type : Nat)
  | tunnelServerEndpoint (tag : UInt8) (text : List UInt8)
  | tunnelPassword (tag : UInt8) (password : List UInt8)
  | tunnelAssignmentId (tag : UInt8) (text : List UInt8)

/-- The fields that attributes set, and what was called. `route` and `route6` are the entries
that were stored since the start. -/
structure Granted where
  ip : InAddr
  ipPoolIndex : Int
  dns1 : InAddr
  dns2 : InAddr
  route : List Server.Route
  filterIn : Nat
  filterOut : Nat
  filtersUsed : List Nat
  sessionTimeout : Nat
  idleTimeout : Nat
  route6 : List Prefix6
  ipv6address : List UInt8
  classValue : List UInt8
  walledGarden : Bool
  walledGardenName : List UInt8
  poolId : List UInt8
  freeTraffic : List UInt8
  opentunnelReq : Bool
  calls : List Call

/-- The fields of a session before an answer. -/
def Granted.fresh : Granted where
  ip := 0
  ipPoolIndex := 0
  dns1 := 0
  dns2 := 0
  route := []
  filterIn := 0
  filterOut := 0
  filtersUsed := []
  sessionTimeout := 0
  idleTimeout := 0
  route6 := []
  ipv6address := []
  classValue := []
  walledGarden := false
  walledGardenName := []
  poolId := []
  freeTraffic := []
  opentunnelReq := false
  calls := []

/-- How far the attributes are taken. `inside` says whether every read so far was where it may
be. -/
structure Reply extends Granted where
  memory : Memory
  inside : Bool

/-- Note whether a read was where it may be. -/
def Reply.note (reply : Reply) (within : Prop) [Decidable within] : Reply :=
  { reply with inside := reply.inside && within }

def Reply.call (reply : Reply) (call : Call) : Reply :=
  { reply with calls := reply.calls ++ [call] }

/-- What an answer is handled with. `uninitialised` is what the stack has where an IPv6 address
is put at a position of the answer, and `route6Before` the bytes of the routes before. -/
structure ReplyServer extends Config where
  auth : List UInt8
  findFilter : List UInt8 → Option Nat
  killTimedoutSessions : Bool
  inetPton : List UInt8 → Option (List UInt8)
  uninitialised : Nat → List UInt8
  route6Before : Nat → List UInt8

def isDigit (c : UInt8) : Bool := 48 ≤ c && c ≤ 57

/-- The digits and dots at the front of a text: the address so far, its last byte and the rest
of the text. -/
def scanQuad : List UInt8 → InAddr → UInt8 → InAddr × UInt8 × List UInt8
  | [], ip, u => (ip, u, [])
  | c :: rest, ip, u =>
      if c = 46 then scanQuad rest ((ip <<< 8) + u.toUInt32) 0
      else if isDigit c then scanQuad rest ip (u * 10 + c - 48)
      else (ip, u, c :: rest)

/-- The digits at the front of a text, as a byte. -/
def scanBits : List UInt8 → UInt8 → UInt8
  | [], bits => bits
  | c :: rest, bits => if isDigit c then scanBits rest (bits * 10 + c - 48) else bits

/-- The digits at the front of a text, as a number of 32 bits. -/
def scanPrefixlen : List UInt8 → Nat → Nat
  | [], prefixlen => prefixlen
  | c :: rest, prefixlen =>
      if isDigit c then scanPrefixlen rest ((prefixlen * 10 + (c - 48).toNat) % 2 ^ 32)
      else prefixlen

/-- The length of the prefix of an address by its class. -/
def classBits (ip : InAddr) : Nat :=
  if ip >>> 24 < 128 then 8 else if ip >>> 24 < 192 then 16 else 24

/-- The route in a text, behind which there is another byte. -/
def framedRoute (text : List UInt8) (behind : UInt8) : Server.Route :=
  let scanned := scanQuad text 0 0
  let ip := (scanned.1 <<< 8) + scanned.2.1.toUInt32
  let rest := scanned.2.2
  if rest.head?.getD behind = 47 then ⟨ip, (scanBits (rest.drop 1) 0).toNat⟩
  else ⟨ip, classBits ip⟩

/-- Store a route, unless it is none or there are too many. -/
def Reply.storeRoute (reply : Reply) (route : Server.Route) : Reply :=
  if reply.route.length = maxRoute ∨ route.ip = 0 then reply
  else { reply with route := reply.route ++ [route] }

/-- Store an IPv6 route, unless there are too many. -/
def Reply.storeRoute6 (reply : Reply) (route : Prefix6) : Reply :=
  if reply.route6.length = maxRoute6 then reply
  else { reply with route6 := reply.route6 ++ [route] }

/-- Framed-IPv6-Route. None if there is no slash, because a byte is written behind it. -/
def framedIpv6Route (server : ReplyServer) (reply : Reply) (p : Nat) (text : List UInt8) :
    Option Reply :=
  match text.findIdx? (· = 47) with
  | none => none
  | some slash =>
      let terminated := { reply with memory := Function.update reply.memory (p + 2 + slash) 0 }
      let r6 := (server.inetPton (cString (text.take slash))).getD (server.uninitialised p)
      let prefixlen := scanPrefixlen (text.drop (slash + 1)) 0
      if prefixlen = 0 then some terminated
      else some (terminated.storeRoute6 ⟨r6, prefixlen % 2 ^ 8⟩)

/-- Delegated-IPv6-Prefix. None if the copy is longer than an address. -/
def delegatedIpv6Prefix (server : ReplyServer) (reply : Reply) (p n : Nat) : Option Reply :=
  let prefixlen := (reply.memory (p + 3)).toNat
  if 4 < n ∧ 0 < prefixlen ∧ prefixlen ≤ 128 then
    if reply.route6.length = maxRoute6 then some reply
    else if 16 < n - 4 then none
    else
      let before := server.route6Before reply.route6.length
      some (reply.storeRoute6
        ⟨readBytes reply.memory (p + 4) (n - 4) ++ before.drop (n - 4), prefixlen⟩)
  else some reply

/-- Filter-Id: the side that the text ends in, and the filter. -/
def filterId (server : ReplyServer) (reply : Reply) (text : List UInt8) : Reply :=
  match text.findIdx? (· = 46) with
  | none => reply
  | some b =>
      let suffix := text.drop (b + 1)
      if suffix = [105, 110] then
        match server.findFilter (text.take b) with
        | none => reply
        | some f => { reply with filterIn := f + 1, filtersUsed := reply.filtersUsed ++ [f] }
      else if suffix = [111, 117, 116] then
        match server.findFilter (text.take b) with
        | none => reply
        | some f => { reply with filterOut := f + 1, filtersUsed := reply.filtersUsed ++ [f] }
      else reply

/-- A text with a tag, which belongs to the text if it is too large for one. -/
def taggedText (memory : Memory) (p n : Nat) : UInt8 × List UInt8 :=
  if 0x1F < memory (p + 2) then (0, cString (readBytes memory (p + 2) (n - 2)))
  else (memory (p + 2), cString (readBytes memory (p + 3) (n - 3)))

/-- The attribute at `p` that is not vendor-specific, of which `size` bytes are there. Its
length byte is `n`. -/
def plainAttribute (server : ReplyServer) (reply : Reply) (p size : Nat) : Option Reply :=
  let memory := reply.memory
  let n := (memory (p + 1)).toNat
  let number := ntohl memory (p + 2)
  let text := readBytes memory (p + 2) (n - 2)
  match (memory p).toNat with
  | 8 =>
      if n < 6 then some reply
      else some ({ reply with
        ip := if UInt32.ofNat number = 0xFFFFFFFE then 0 else UInt32.ofNat number
        ipPoolIndex := -1 }.note (6 ≤ size))
  | 135 =>
      if n < 6 then some reply
      else some ({ reply with dns1 := UInt32.ofNat number }.note (6 ≤ size))
  | 136 =>
      if n < 6 then some reply
      else some ({ reply with dns2 := UInt32.ofNat number }.note (6 ≤ size))
  | 22 =>
      -- a text of digits and dots alone is read up to the byte behind it
      some ((reply.storeRoute (framedRoute text (memory (p + max n 2)))).note
        ((scanQuad text 0 0).2.2 ≠ []))
  | 11 => some ((filterId server reply text).note (2 ≤ n))
  | 27 =>
      if n < 6 then some reply
      else
        let timed := { reply with sessionTimeout := number }.note (6 ≤ size)
        if number = 0 ∧ server.killTimedoutSessions then
          some (timed.call (.shutdown "Session timeout is zero"))
        else some timed
  | 28 =>
      if n < 6 then some reply
      else some ({ reply with idleTimeout := number }.note (6 ≤ size))
  | 99 => framedIpv6Route server (reply.note (2 ≤ n)) p text
  | 123 => delegatedIpv6Prefix server reply p n
  | 168 =>
      if n = 18 then some ({ reply with ipv6address := text }.note (18 ≤ size)) else some reply
  | 25 =>
      if n < 3 then some reply
      else some ({ reply with classValue := text.take maxClass }.note (n ≤ size))
  | 64 =>
      if n ≠ 6 then some reply
      else some (({ reply with opentunnelReq := true }.note (6 ≤ size)).call
        (.tunnelType (memory (p + 2)) (number % 2 ^ 24)))
  | 65 =>
      if n < 6 then some reply
      else some ((reply.note (6 ≤ size)).call
        (.tunnelMediumType (memory (p + 2)) (number % 2 ^ 24)))
  | 67 =>
      if n < 3 then some reply
      else
        let tagged := taggedText memory p n
        some ((reply.note (n ≤ size)).call (.tunnelServerEndpoint tagged.1 tagged.2))
  | 69 =>
      match processTunnelPassword server.toConfig server.auth (readBytes memory p n) with
      | none => some reply
      | some .outside => none
      | some (.returned length buffer) =>
          let password := cString (readBytes buffer 0 strtempSize)
          if length = 0 ∨ 63 < password.length then some (reply.note (n ≤ size))
          else some ((reply.note (n ≤ size)).call (.tunnelPassword (memory (p + 2)) password))
  | 82 =>
      if n < 3 then some reply
      else
        let tagged := taggedText memory p n
        some ((reply.note (n ≤ size)).call (.tunnelAssignmentId tagged.1 tagged.2))
  | _ => some reply

/-- How many bytes `strncpy` reads. -/
def strncpyReads (memory : Memory) (p size : Nat) : Nat :=
  ((readBytes memory p size).findIdx? (· = 0)).elim size (· + 1)

/-- A vendor-specific attribute of `n` bytes at `p`. -/
def vendorSpecific (server : ReplyServer) (reply : Reply) (p n : Nat) : Option Reply :=
  let memory := reply.memory
  let vendor := ntohl memory (p + 2)
  let attrib := memory (p + 6)
  let inner := (memory (p + 7)).toNat
  let noted := reply.note (8 ≤ n)
  if vendor = 9 ∧ attrib = 1 then
    if inner < 2 then some noted
    else
      let pair := splitAvpair memory (p + 8) (inner - 2)
      let split := { noted with memory := pair.2 }.note (8 + (inner - 2) ≤ n)
      some (pair.1.elim split fun pair => split.call (.avpair pair.1 pair.2))
  else if vendor = 529 ∧ 135 ≤ attrib ∧ attrib ≤ 136 then
    -- old-format DNS attributes
    plainAttribute server noted (p + 6) (n - 6)
  else if vendor = 1337 ∧ attrib = 1 then
    if noted.walledGarden then some noted
    else some { noted with walledGarden := true, walledGardenName := text "garden" }
  else if vendor = 1337 ∧ attrib = 2 then
    if inner < 2 then none
    else
      let size := min (inner - 2) maxGarden
      some ({ noted with
        walledGarden := true
        walledGardenName := cString (readBytes memory (p + 8) size) }.note
          (8 + strncpyReads memory (p + 8) size ≤ n))
  else if vendor = 1337 ∧ attrib = 3 then
    some ({ noted with poolId := readBytes memory (p + 8) 2 }.note (10 ≤ n))
  else if vendor = 1337 ∧ attrib = 4 then
    some ({ noted with freeTraffic := readBytes memory (p + 8) 2 }.note (10 ≤ n))
  else some noted

/-- The attribute at `p`. None if a copy leaves the field that it is for. -/
def processAttribute (server : ReplyServer) (reply : Reply) (p : Nat) : Option Reply :=
  let n := (reply.memory (p + 1)).toNat
  if reply.memory p = 26 ∧ 7 ≤ n then vendorSpecific server reply p n
  else plainAttribute server reply p n

/-- Where the pointer is at the end of the attribute at `p`. -/
def pointerAfter (memory : Memory) (p : Nat) : Nat :=
  let n := (memory (p + 1)).toNat
  let attrib := memory (p + 6)
  if memory p = 26 ∧ 7 ≤ n ∧ ntohl memory (p + 2) = 529 ∧ 135 ≤ attrib ∧ attrib ≤ 136 then p + 6
  else p

/-- The walk goes on with an attribute at `p`. -/
def More (e p : Nat) (reply : Reply) : Prop :=
  p + 2 ≤ e ∧ reply.memory (p + 1) ≠ 0 ∧ p + (reply.memory (p + 1)).toNat ≤ e

instance (e p : Nat) (reply : Reply) : Decidable (More e p reply) :=
  inferInstanceAs (Decidable (_ ∧ _))

/-- The attributes from `p` to `e`. The byte that the pointer is moved by is not written to. -/
def processAttributes (server : ReplyServer) (e p : Nat) (reply : Reply) : Option Reply :=
  if More e p reply then
    let q := pointerAfter reply.memory p
    match processAttribute server reply p with
    | none => none
    | some next => processAttributes server e (q + (reply.memory (q + 1)).toNat) next
  else some reply
termination_by e - p
decreasing_by
  rename_i more
  obtain ⟨header, moves, -⟩ := more
  have moves : (reply.memory (p + 1)).toNat ≠ 0 := fun zero => moves (UInt8.toNat_inj.mp zero)
  simp only [pointerAfter]
  split <;> omega

def radCode (code : UInt8) : Server.RadCode :=
  if code = 2 then .accessAccept
  else if code = 3 then .accessReject
  else if code = 5 then .accountingResponse
  else .other

/-- `RADIUS_SHIFT`. -/
def radiusShift : Nat := 6

/-- The state before the attributes of an answer. -/
def Reply.start (granted : Granted) (memory : Memory) (inside : Bool) : Reply :=
  { granted with
    route := []
    route6 := []
    opentunnelReq := false
    calls := []
    memory := memory
    inside := inside }

/-- How an answer is handled up to its attributes: what they granted, if they were taken and no
copy left the field that it is for, and whether every access was where it may be. -/
structure AnswerHandled where
  granted : Option Granted
  inside : Bool

/-- Handle an answer of `len` bytes from a socket. `server` is what the answer to the request in
a slot is handled with, `postAuth` what plugins make of an answer, and `granted` the fields of
the session before. -/
def processradAnswer (server : Nat → ReplyServer) (st : State) (postAuth : Bool → Bool)
    (granted : Granted) (memory : Memory) (len socketIndex : Nat) : AnswerHandled :=
  if len < headerSize ∨ len < ntohs memory 2 then ⟨none, true⟩
  else
    let size := ntohs memory 2
    let r := socketIndex ||| (memory 1).toNat <<< radiusShift
    let slot := st.radius r
    let s := slot.session
    let indexed : Bool := s < maxSession
    if s = 0 ∧ slot.state ≠ .stop then ⟨none, indexed⟩
    else if ¬ slot.state.isAwaiting then ⟨none, indexed⟩
    else
      let hash := calcAuth (server r).toConfig memory size (server r).auth
      let hashed := indexed && headerSize ≤ size
      if List.ofFn hash ≠ readBytes memory 4 16 then ⟨none, hashed⟩
      else if ¬ slot.state.expects (radCode (memory 0)) then ⟨none, hashed⟩
      else if ¬ slot.state.isAuth then ⟨none, hashed⟩
      else if ¬ postAuth (radCode (memory 0) = .accessAccept) then ⟨none, hashed⟩
      else
        match processAttributes (server r) size headerSize (.start granted memory hashed) with
        | none => ⟨none, false⟩
        | some reply => ⟨some reply.toGranted, reply.inside⟩

/-- The states before the attributes that are taken, with their positions. -/
def visited (server : ReplyServer) (e p : Nat) (reply : Reply) : List (Reply × Nat) :=
  if More e p reply then
    let q := pointerAfter reply.memory p
    (reply, p) :: (processAttribute server reply p).elim [] fun next =>
      visited server e (q + (reply.memory (q + 1)).toNat) next
  else []
termination_by e - p
decreasing_by
  rename_i more
  obtain ⟨header, moves, -⟩ := more
  have moves : (reply.memory (p + 1)).toNat ≠ 0 := fun zero => moves (UInt8.toNat_inj.mp zero)
  simp only [pointerAfter]
  split <;> omega

variable {server : ReplyServer} {e p : Nat} {reply next : Reply}

theorem visited_nil (done : ¬ More e p reply) : visited server e p reply = [] := by
  rw [visited, if_neg done]

theorem visited_none (more : More e p reply) (stray : processAttribute server reply p = none) :
    visited server e p reply = [(reply, p)] := by
  rw [visited, if_pos more, stray]
  rfl

theorem visited_some (more : More e p reply) (taken : processAttribute server reply p = some next) :
    visited server e p reply = (reply, p) ::
      visited server e (pointerAfter reply.memory p +
        (reply.memory (pointerAfter reply.memory p + 1)).toNat) next := by
  rw [visited, if_pos more, taken]
  rfl

/-- A property holds after all attributes exactly if each preserves it, where what one takes
for that is known. -/
theorem processAttributes_iff {Good : Reply → Prop} {Step : Reply → Nat → Prop}
    (step : ∀ reply p, (∃ next, processAttribute server reply p = some next ∧ Good next) ↔
      Good reply ∧ Step reply p) :
    (∃ next, processAttributes server e p reply = some next ∧ Good next) ↔
      Good reply ∧ ∀ visit ∈ visited server e p reply, Step visit.1 visit.2 := by
  induction p, reply using processAttributes.induct server e with
  | case1 p reply more stray =>
      have bad := (not_congr (step reply p)).mp (by simp [stray])
      rw [processAttributes, if_pos more, visited_none more stray]
      simp only [stray, reduceCtorEq, false_and, exists_false, List.mem_singleton, forall_eq]
      exact iff_of_false id bad
  | case2 p reply more q next taken ih =>
      have whole := step reply p
      rw [processAttributes, if_pos more, visited_some more taken]
      simp only [taken, Option.some.injEq, exists_eq_left'] at whole ⊢
      rw [ih, List.forall_mem_cons, ← and_assoc, ← whole]
  | case3 p reply done =>
      rw [processAttributes, if_neg done, visited_nil done]
      simp

end L2tpns.Radius
