import L2tpns.L2tp.Bounds
import L2tpns.Ppp.Lcp
import L2tpns.Ppp.Login
import L2tpns.Ppp.Network
import L2tpns.Server.Spoofing

/-! # What the PPP handlers do to a packet

The bytes of a received packet that each handler reads or writes, and the lengths that it
subtracts, in the order of the source. A handler is given a packet from its first byte on; what
is behind the packet is read as it is.
-/

namespace L2tpns.Footprint

open Avp (Memory ntohs readBytes)
open L2tp (Access)
open Server

/-- One thing that is done: bytes are read or written, bytes are read for an option at `o` that
declares `length` bytes, or a length is subtracted from another one. -/
inductive Touch where
  | bytes (start count : Nat)
  | option (o length start count : Nat)
  | difference (whole part : Nat)
deriving DecidableEq, Repr

/-- It is inside of a packet of `l` bytes, and of its option; a difference is not negative. -/
def Touch.Inside (l : Nat) : Touch → Prop
  | .bytes start count => Access.Inside 0 l ⟨start, count⟩
  | .option o length start count =>
      Access.Inside o length ⟨start, count⟩ ∧ Access.Inside 0 l ⟨start, count⟩
  | .difference whole part => part ≤ whole

/-- The same in a packet that starts `k` bytes earlier. -/
def Touch.shift (k : Nat) : Touch → Touch
  | .bytes start count => .bytes (k + start) count
  | .option o length start count => .option (k + o) length (k + start) count
  | .difference whole part => .difference whole part

/-- A loop over the options of a packet: whether it ends at type 0, what is done for an option,
and the state after it unless the loop is left. -/
structure OptionLoop (σ : Type) where
  typed : Bool
  value : σ → Nat → List Touch
  next : σ → Nat → Option σ

/-- The loop from `o` on with `x` bytes left. -/
def OptionLoop.touches {σ : Type} (loop : OptionLoop σ) (memory : Memory) :
    Nat → Nat → Nat → σ → List Touch
  | 0, _, _, _ => []
  | fuel + 1, o, x, state =>
      let length := (memory (o + 1)).toNat
      if x ≤ 2 then []
      else .bytes o 2 ::
        if length = 0 ∨ (loop.typed ∧ memory o = 0) ∨ x < length then []
        else .difference x length :: loop.value state o ++
          match loop.next state o with
          | some state => loop.touches memory fuel (o + length) (x - length) state
          | none => []

/-- The loop over the options of a packet of `l` bytes. -/
def OptionLoop.run {σ : Type} (loop : OptionLoop σ) (memory : Memory) (l : Nat) (start : σ) :
    List Touch :=
  .difference l 4 :: loop.touches memory (l - 4) 4 (l - 4) start

/-- The reads of `dumplcp` for the value of an option. -/
def dumpedValue (memory : Memory) (o : Nat) : List Touch :=
  let length := (memory (o + 1)).toNat
  match (memory o).toNat with
  | 1 => if length = 4 then [.option o length (o + 2) 2] else []
  | 2 | 5 => if length = 6 then [.option o length (o + 2) 4] else []
  | 3 =>
      if length = 4 then [.option o length (o + 2) 2]
      else if length = 5 then [.option o length (o + 2) 3]
      else []
  | 4 => [.option o length (o + 2) 4]
  | _ => []

/-- The options that `dumplcp` prints; it does not see whether they fit. -/
def dumpedOptions (memory : Memory) : Nat → Nat → Nat → List Touch
  | 0, _, _ => []
  | fuel + 1, o, x =>
      let length := (memory (o + 1)).toNat
      if x ≤ 2 then []
      else .bytes o 2 ::
        if length < 2 then []
        else dumpedValue memory o ++ .difference x length ::
          dumpedOptions memory fuel (o + length) (x - length)

/-- `dumplcp`, which is called if the log has level 4. -/
def dumplcp (debug : Nat) (memory : Memory) (l : Nat) : List Touch :=
  if debug ≤ 3 then []
  else .difference l 4 ::
    if memory 0 = configReq ∨ memory 0 = configRej ∨ memory 0 = configAck then
      dumpedOptions memory (l - 4) 4 (l - 4)
    else []

/-- The packet is copied behind the headers of a reply if there is room. -/
def copied (st : State) (s t proto l : Nat) : List Touch :=
  if pppFits st s t proto l then [.bytes 0 l] else []

/-- The packet is given another code and copied. -/
def sentBack (st : State) (s t proto l : Nat) : List Touch := .bytes 0 1 :: copied st s t proto l

/-- `ppp_code_rej` copies what the MRU of the peer allows. -/
def codeRejected (st : State) (s l : Nat) : List Touch :=
  let whole := min ((l + 4) % 2 ^ 16) (min (max (st.session s).mru minMtu) maxEther)
  [.difference whole 4, .bytes 0 (whole - 4)]

/-- An option is copied if it was queued in a rejection. -/
def queued (memory : Memory) (before after : Answer) (o : Nat) : List Touch :=
  let length := (memory (o + 1)).toNat
  if after ≠ before ∧ ¬ after.lost ∧ after.response.map Reply.code = some configRej then
    [.option o length o length]
  else []

/-- The log prints the packet at level 5. A handler looks at the header if all of it was
received. -/
def header (debug l : Nat) : List Touch :=
  (if 5 ≤ debug then [.bytes 0 l] else []) ++ if l < 4 then [] else [.bytes 0 4]

/-- The options of a ConfigAck. -/
def ackLoop (memory : Memory) : OptionLoop Unit where
  typed := true
  value _ o :=
    let length := (memory (o + 1)).toNat
    if memory o = 3 then
      .option o length (o + 2) 2 ::
        if ntohs memory (o + 2) ≠ pppPap ∧ ntohs memory (o + 2) = pppChap then
          [.option o length (o + 4) 1]
        else []
    else []
  next _ _ := some ()

/-- The reads for the value of an option of a ConfigReq. -/
def requestedValue (st : State) (memory : Memory) (o : Nat) : List Touch :=
  let length := (memory (o + 1)).toNat
  match (memory o).toNat with
  | 1 | 17 => [.option o length (o + 2) 2]
  | 2 => [.option o length (o + 2) 4]
  | 3 =>
      .option o length (o + 2) 2 ::
        if ntohs memory (o + 2) = pppChap ∧ st.config.radiusAuthtypes &&& authChap ≠ 0 then
          [.option o length (o + 4) 1]
        else []
  | 19 =>
      [.option o length (o + 2) 1, .difference length 3,
        .option o length (o + 3) (min ((length + 253) % 2 ^ 8) 20)]
  | _ => []

/-- The options of a ConfigReq. -/
def reqLoop (st : State) (s t : Nat) (memory : Memory) : OptionLoop Negotiation where
  typed := true
  value negotiation o :=
    requestedValue st memory o ++ queued memory negotiation.answer
      (lcpReqOption s (pppHeader st s t pppLcp) memory negotiation o).answer o
  next negotiation o := some (lcpReqOption s (pppHeader st s t pppLcp) memory negotiation o)

/-- The options of a ConfigNak or a ConfigRej. -/
def nakLoop (s : Nat) (memory : Memory) : OptionLoop Refused where
  typed := true
  value refused o :=
    let nak := memory 0 = configNak
    let length := (memory (o + 1)).toNat
    match (memory o).toNat with
    | 1 => if nak ∧ 4 ≤ length then [.option o length (o + 2) 2] else []
    | 3 =>
        if ¬ 0 < refused.authtype.getD 0 ∧ nak ∧ 4 ≤ length then
          .option o length (o + 2) 2 ::
            if ntohs memory (o + 2) ≠ pppPap ∧ ntohs memory (o + 2) = pppChap ∧ 4 < length then
              [.option o length (o + 4) 1]
            else []
        else []
    | 5 => if nak ∧ 6 ≤ length then [.option o length (o + 2) 4] else []
    | 17 => if nak then [.option o length (o + 2) 2] else []
    | _ => []
  next refused o := (lcpNakOption s memory refused o).toOption

/-- The case of a ConfigReq: an acknowledgement is a copy of it. -/
def requested (st : State) (s t : Nat) (memory : Memory) (l : Nat) : List Touch :=
  let walked := lcpWalk st s t memory l
  (reqLoop st s t memory).run memory l ⟨st, .none, false⟩ ++
    if walked.answer.acks then copied (walked.told s) s t pppLcp l else []

def protocolRejected (memory : Memory) (l : Nat) : List Touch :=
  if l ≤ 4 then []
  else .bytes 4 1 :: if 5 < l ∧ (memory 4).toNat % 2 = 0 then [.bytes 5 1] else []

/-- The packet is returned unless LCP is down. -/
def terminated (st : State) (s t proto : Nat) (state : FsmState) (l : Nat) : List Touch :=
  match state with
  | .initial | .starting => []
  | _ => sentBack st s t proto l

/-- What is done to an LCP packet of `l` bytes for its code. -/
def lcpCode (st : State) (s t : Nat) (memory : Memory) (l : Nat) : List Touch :=
  let code := memory 0
  if code = configAck then (ackLoop memory).run memory l ()
  else if code = configReq then requested st s t memory l
  else if code = configNak ∨ code = configRej then (nakLoop s memory).run memory l ⟨st, none⟩
  else if code = terminateReq then terminated st s t pppLcp (st.session s).ppp.lcp l
  else if code = protocolRej then protocolRejected memory l
  else if code = echoReq then .bytes 4 4 :: sentBack st s t pppLcp l
  else if code = echoReply ∨ code = codeRej then []
  else codeRejected st s l

/-- What is done to an LCP packet of which `l` bytes were received. -/
def processlcp (debug : Nat) (st : State) (s t : Nat) (memory : Memory) (l : Nat) : List Touch :=
  let hl := ntohs memory 2
  header debug l ++
    if l < 4 ∨ l < hl ∨ (st.session s).die ≠ 0 then []
    else dumplcp debug memory hl ++ lcpCode st s t memory hl

/-- The name and the password of a PAP request. -/
def papCredentials (memory : Memory) : List Touch :=
  let userLength := (memory 4).toNat
  let passLength := (memory (5 + userLength)).toNat
  .bytes 4 1 ::
    if userLength ≠ 0 ∧ userLength < maxUser then
      .bytes 5 userLength :: .bytes (5 + userLength) 1 ::
        if passLength ≠ 0 ∧ passLength < maxUser then [.bytes (6 + userLength) passLength] else []
    else []

def processpap (debug : Nat) (st : State) (s : Nat) (memory : Memory) (l : Nat) : List Touch :=
  header debug l ++
    if l < 4 ∨ l < ntohs memory 2 ∨ memory 0 ≠ 1 ∨ (st.session s).ppp.phase ≠ .authenticate then []
    else papCredentials memory

/-- The answer to the challenge and the name of a CHAP response of `l` bytes. A name that is too
short is logged. -/
def chapCredentials (debug : Nat) (memory : Memory) (l : Nat) : List Touch :=
  if l < 5 then []
  else .bytes 4 1 ::
    if memory 4 ≠ 16 then []
    else .difference l 5 ::
      if l - 5 < 16 then (if 1 ≤ debug then [.difference (l - 5) 16] else [])
      else .difference (l - 5) 16 ::
        if maxUser ≤ l - 21 then [] else [.bytes 5 16, .bytes 21 (l - 21)]

def processchap (debug : Nat) (st : State) (s : Nat) (memory : Memory) (l : Nat) : List Touch :=
  let r := (st.sessLocal s).radius
  header debug l ++
    if l < 4 ∨ l < ntohs memory 2 ∨ memory 0 ≠ 2 ∨ (st.session s).ppp.phase ≠ .authenticate ∨
        r = 0 ∨ (memory 1).toNat ≠ (st.radius r).id then []
    else chapCredentials debug memory (ntohs memory 2)

/-- The options of a request of a network protocol: `known` gives the value that an option is
compared with. -/
def ncpLoop (ncp : Ncp) (known : State → Nat → Option (List UInt8)) (s header : Nat)
    (memory : Memory) (option : Ncp.Request → Nat → Except State Ncp.Request) :
    OptionLoop Ncp.Request where
  typed := false
  value request o :=
    let length := (memory (o + 1)).toNat
    match known request.st (memory o).toNat with
    | some value =>
        if length = value.length + 2 then
          .option o length (o + 2) value.length :: queued memory request.answer
            (request.expect ncp.fsm s header memory o value).1.answer o
        else []
    | none =>
        queued memory request.answer
          (pppConfRej header request.answer (readBytes memory o length)) o
  next request o := (option request o).toOption

/-- An acknowledgement with an address is a copy of the request. -/
def acknowledged (walked : Except State Ncp.Request) (s t proto l : Nat) : List Touch :=
  match walked with
  | .ok walked => if walked.answer.acks ∧ walked.gotip then copied walked.st s t proto l else []
  | .error _ => []

/-- What is done to a packet of a network protocol whose header has been checked. -/
def networkPacket (ncp : Ncp) (known : State → Nat → Option (List UInt8))
    (option : Nat → Ncp.Request → Nat → Except State Ncp.Request) (st : State) (s t : Nat)
    (memory : Memory) (l : Nat) : List Touch :=
  let code := memory 0
  let header := pppHeader st s t ncp.proto
  if code = configAck then []
  else if code = configReq then
    (ncpLoop ncp known s header memory (option header)).run memory l ⟨st, .none, false⟩ ++
      acknowledged (ncp.walked option st s t memory l) s t ncp.proto l
  else if code = terminateReq then
    terminated st s t ncp.proto ((st.session s).ppp.state ncp.fsm) l
  else if code = codeRej then []
  else codeRejected st s l

/-- The addresses of the session. -/
def ipcpKnown (s : Nat) (st : State) (type : Nat) : Option (List UInt8) :=
  let session := st.session s
  match type with
  | 3 => some (bytes32 session.ip.toNat)
  | 129 => some (bytes32 session.dns1.toNat)
  | 131 => some (bytes32 session.dns2.toNat)
  | _ => none

def processipcp (debug : Nat) (st : State) (s t : Nat) (memory : Memory) (l : Nat) :
    List Touch :=
  let hl := ntohs memory 2
  header debug l ++
    if l < 4 ∨ l < hl ∨ (st.session s).ppp.phase.code < Phase.network.code then []
    else networkPacket ipcp (ipcpKnown s) (ipcpOption s memory) st s t memory hl

/-- The interface identifier of the session. -/
def ipv6cpKnown (s : Nat) (st : State) (type : Nat) : Option (List UInt8) :=
  if type = 1 then some (interfaceIdent (st.session s)) else none

def processipv6cp (debug : Nat) (st : State) (s t : Nat) (memory : Memory) (l : Nat) :
    List Touch :=
  let hl := ntohs memory 2
  header debug l ++
    if l < 4 ∨ l < hl ∨ (st.session s).ppp.phase.code < Phase.network.code ∨
        (st.session s).ip = 0 then []
    else networkPacket ipv6cp (ipv6cpKnown s) (ipv6cpOption s memory) st s t memory hl

/-- The code of a CCP packet is read in any case; it is logged at level 2 before the network
phase. When CCP is closed the header of a request is copied. -/
def processccp (debug : Nat) (st : State) (s t : Nat) (memory : Memory) (l : Nat) :
    List Touch :=
  let code := memory 0
  (if 5 ≤ debug then [.bytes 0 l] else []) ++
    if (st.session s).ppp.phase.code < Phase.network.code then
      if 2 ≤ debug then [.bytes 0 1] else []
    else .bytes 0 1 ::
      if code = configAck then []
      else if code = configReq then
        sentBack st s t pppCcp l ++
          if pppFits st s t pppCcp l ∧ (st.session s).ppp.ccp = .closed then
            copied st s t pppCcp 2
          else []
      else if code = terminateReq then sentBack st s t pppCcp l
      else if code = codeRej then []
      else codeRejected st s l

/-- Fields of a packet, with the values that they are compared with. -/
abbrev Pattern := List (Nat × List UInt8)

/-- The fields of a router solicitation. -/
def solicitation : Pattern :=
  [(6, [58]), (7, [255]), (24, [0xFF]), (25, [2]), (26, [0, 0, 0, 0]), (30, [0, 0, 0, 0]),
    (34, [0, 0, 0, 0]), (38, [0]), (39, [2]), (40, [133])]

/-- The fields of a packet from the DHCPv6 client to the servers. -/
def dhcpv6 : Pattern :=
  [(6, [17]), (24, [0xFF]), (25, [2]), (26, [0, 0, 0, 0]), (30, [0, 0, 0, 0]), (34, [0, 0]),
    (36, [0]), (37, [1]), (38, [0]), (39, [2]), (40, [2]), (41, [0x22]), (42, [2]), (43, [0x23])]

def Pattern.Matches (pattern : Pattern) (memory : Memory) : Prop :=
  ∀ field ∈ pattern, readBytes memory field.1 field.2.length = field.2

instance (pattern : Pattern) (memory : Memory) : Decidable (pattern.Matches memory) :=
  inferInstanceAs (Decidable (∀ field ∈ pattern, _))

/-- The comparison ends at the first field that differs. -/
def Pattern.compare (memory : Memory) : Pattern → List Touch
  | [] => []
  | field :: rest =>
      .bytes field.1 field.2.length ::
        if readBytes memory field.1 field.2.length = field.2 then Pattern.compare memory rest
        else []

/-- The source is not one of the session. -/
def spoofedIpv6 (st : State) (s ip : Nat) : Prop :=
  let session := st.session s
  if hasIpv6 session.ipv6address then sessionbyipv6new st ip ≠ s ∧ ¬ linkLocal ip
  else (embeddedIpv4 ip ≠ session.ip ∨ bytesToNat st.config.ipv6Prefix 8 ≠ ip / 2 ^ 64) ∧
    sessionbyipv6 st ip ≠ s

instance (st : State) (s ip : Nat) : Decidable (spoofedIpv6 st s ip) := by
  unfold spoofedIpv6
  infer_instance

/-- What is dropped before it is compared with anything. -/
def ipv6Dropped (st : State) (s : Nat) (memory : Memory) (l : Nat) : Prop :=
  maxEther < l ∨ (st.session s).ppp.phase ≠ .network ∨ (st.session s).ppp.ipv6cp ≠ .opened ∨
    spoofedIpv6 st s (bytesToNat (readBytes memory 8 16) 16)

instance (st : State) (s : Nat) (memory : Memory) (l : Nat) :
    Decidable (ipv6Dropped st s memory l) :=
  inferInstanceAs (Decidable (_ ∨ _))

/-- The source is read before the length is looked at. -/
def processipv6in (debug : Nat) (st : State) (s : Nat) (memory : Memory) (l : Nat) :
    List Touch :=
  (if 5 ≤ debug then [.bytes 0 l] else []) ++ .bytes 8 16 :: .bytes 16 4 ::
    if ipv6Dropped st s memory l then []
    else solicitation.compare memory ++
      if solicitation.Matches memory then [] else dhcpv6.compare memory

/-- The packet in a frame, `k` bytes behind its start. -/
def behind (memory : Memory) (k : Nat) : Memory := fun i => memory (k + i)

/-- How many bytes the protocol of a frame takes. -/
def protocolBytes (memory : Memory) (p : Nat) : Nat := if (memory p).toNat % 2 = 1 then 1 else 2

def frameProtocol (memory : Memory) (p : Nat) : Nat :=
  if (memory p).toNat % 2 = 1 then (memory p).toNat else ntohs memory p

/-- `part` bytes fewer; a length of 16 bits wraps. -/
def without (l part : Nat) : Nat := if part ≤ l then l - part else l + 2 ^ 16 - part

/-- What is done to a packet in a frame; what `processipin` does to one is left out. -/
def framed (debug : Nat) (st : State) (s t proto : Nat) (memory : Memory) (l : Nat) :
    List Touch :=
  if proto = pppIpv6 ∧ st.config.ipv6Prefix.headD 0 ≠ 0 then
    if (st.session s).die ≠ 0 then [] else processipv6in debug st s memory l
  else if proto = pppIpcp then processipcp debug st s t memory l
  else if proto = pppCcp then processccp debug st s t memory l
  else []

/-- What is done to a frame of `l` bytes. `extra` says that four bytes were left free before it. -/
def processmpframe (debug : Nat) (st : State) (s t : Nat) (extra : Bool) (memory : Memory)
    (l : Nat) : List Touch :=
  let p := if extra then 4 else 0
  let frame := without l p
  let n := protocolBytes memory p
  (if extra then [.difference l 4] else []) ++ .bytes p n :: .difference frame n ::
    (framed debug st s t (frameProtocol memory p) (behind memory (p + n))
      (without frame n)).map (Touch.shift (p + n))

inductive Handler where
  | processlcp
  | processpap
  | processchap
  | processipcp
  | processipv6cp
  | processccp
  | processipv6in
  | processmpframe (extra : Bool)
deriving DecidableEq, Repr

/-- What a handler does to a packet of `l` bytes. -/
def Handler.touches (debug : Nat) (st : State) (s t : Nat) (memory : Memory) (l : Nat) :
    Handler → List Touch
  | .processlcp => Footprint.processlcp debug st s t memory l
  | .processpap => Footprint.processpap debug st s memory l
  | .processchap => Footprint.processchap debug st s memory l
  | .processipcp => Footprint.processipcp debug st s t memory l
  | .processipv6cp => Footprint.processipv6cp debug st s t memory l
  | .processccp => Footprint.processccp debug st s t memory l
  | .processipv6in => Footprint.processipv6in debug st s memory l
  | .processmpframe extra => Footprint.processmpframe debug st s t extra memory l

end L2tpns.Footprint
