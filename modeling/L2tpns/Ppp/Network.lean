import L2tpns.Ppp.Packets

/-! # IPCP, IPV6CP and CCP

The network protocols are negotiated in the network phase. Their automata answer
acknowledgements and requests alike; each has its own request to send and its own
way to come up.
-/

namespace L2tpns.Server

open Avp (Memory ntohs readBytes writeBytes)

/-- A network protocol: its automaton, its number, the request it sends and what it
does when it is open. -/
structure Ncp where
  fsm : Fsm
  proto : Nat
  send : State → Nat → State
  up : State → Nat → State

namespace Ncp

variable (ncp : Ncp)

def configAck (st : State) (s : Nat) : State :=
  match (st.session s).ppp.state ncp.fsm with
  | .requestSent => changeState (initialiseRestartCount st s ncp.fsm) s ncp.fsm .ackReceived
  | .ackReceived | .opened => changeState (ncp.send st s) s ncp.fsm .requestSent
  | .ackSent => ncp.up st s
  | _ => st

/-- What the automaton does about a request, and whether it replies. -/
def answerReq (st : State) (s : Nat) (acks : Bool) : State × Bool :=
  let answered := if acks then FsmState.ackSent else .requestSent
  match (st.session s).ppp.state ncp.fsm with
  | .closed => (st, true)
  | .stopped | .opened =>
      (changeState (ncp.send (initialiseRestartCount st s ncp.fsm) s) s ncp.fsm answered, true)
  | .requestSent => (if acks then changeState st s ncp.fsm .ackSent else st, true)
  | .ackReceived => (if acks then ncp.up st s else st, true)
  | .ackSent => (changeState st s ncp.fsm answered, true)
  | _ => (st, false)

/-- Answer a request with the packet that was made up, or close. -/
def reply (st : State) (s : Nat) (acks : Bool) (memory : Memory) (packet : List UInt8) : State :=
  let closed := (st.session s).ppp.state ncp.fsm = .closed
  let (next, replies) := ncp.answerReq st s acks
  if ¬ replies then next
  else if closed then sendTerminateAck next s ncp.proto memory
  else next.emit (.ppp s ncp.proto packet)

/-- The case of a TerminateReq. -/
def terminateReq (st : State) (s t : Nat) (memory : Memory) (l : Nat) : State :=
  match (st.session s).ppp.state ncp.fsm with
  | .initial | .starting => st
  | .opened =>
      let down := changeState (zeroRestartCount st s ncp.fsm) s ncp.fsm .closing
      sendBack down s t ncp.proto terminateAck memory l
  | _ => sendBack st s t ncp.proto terminateAck memory l

/-- A request that is being answered, and whether the address was among its options. -/
structure Request where
  st : State
  answer : Answer
  gotip : Bool

/-- Walk over the options of a request. A malformed one ends the processing. -/
def walk (option : Request → Nat → Except State Request) (memory : Memory) :
    Nat → Nat → Nat → Request → Except State Request
  | 0, _, _, request => .ok request
  | fuel + 1, o, length, request =>
      let n := (memory (o + 1)).toNat
      if length ≤ 2 then .ok request
      else if n = 0 ∨ length < n then .error request.st
      else
        match option request o with
        | .error ended => .error ended
        | .ok request => walk option memory fuel (o + n) (length - n) request

/-- Suggest another value for an option unless it is the right one. The second result
says whether the processing ends. -/
def Request.expect (request : Request) (fsm : Fsm) (s header : Nat) (memory : Memory) (o : Nat)
    (value : List UInt8) : Request × Bool :=
  if readBytes memory (o + 2) value.length = value then (request, false)
  else
    let (st, answer) := pppConfNak request.st s fsm header request.answer
      (readBytes memory o (memory (o + 1)).toNat) value
    ({ request with st := st, answer := answer }, answer.lost)

/-- Reject an option that is not known. -/
def Request.reject (request : Request) (header : Nat) (memory : Memory) (o : Nat) :
    Except State Request :=
  let answer := pppConfRej header request.answer (readBytes memory o (memory (o + 1)).toNat)
  if answer.lost then .error request.st else .ok { request with answer := answer }

/-- What the options of a request come to. -/
def walked (option : Nat → Request → Nat → Except State Request) (st : State) (s t : Nat)
    (memory : Memory) (l : Nat) : Except State Request :=
  walk (option (pppHeader st s t ncp.proto)) memory (l - 4) 4 (l - 4) ⟨st, .none, false⟩

/-- A request is dropped if the processing has ended, and when it is to be acknowledged
if it is without the address or there is no room for it. -/
def drops (option : Nat → Request → Nat → Except State Request) (st : State) (s t : Nat)
    (memory : Memory) (l : Nat) : Bool :=
  match ncp.walked option st s t memory l with
  | .error _ => true
  | .ok walked => walked.answer.acks && ! (walked.gotip && pppFits walked.st s t ncp.proto l)

/-- The case of a ConfigReq. -/
def configReq (option : Nat → Request → Nat → Except State Request) (st : State) (s t : Nat)
    (memory : Memory) (l : Nat) : State :=
  match ncp.walked option st s t memory l with
  | .error ended => ended
  | .ok walked =>
      if ncp.drops option st s t memory l then walked.st
      else ncp.reply walked.st s walked.answer.acks memory (walked.answer.packet memory l)

/-- Process a packet whose header has been checked. -/
def process (option : Nat → Request → Nat → Except State Request) (st : State) (s t : Nat)
    (memory : Memory) (l : Nat) : State :=
  let code := memory 0
  if code = Server.configAck then ncp.configAck st s
  else if code = Server.configReq then ncp.configReq option st s t memory l
  else if code = Server.terminateReq then ncp.terminateReq st s t memory l
  else if code = codeRej then st
  else pppCodeRej st s ncp.proto memory l

end Ncp

def ipcp : Ncp := ⟨.ipcp, pppIpcp, sendipcp, ipcpOpen⟩

/-- One option of an IPCP request. A session whose address cannot be agreed on is shut
down. -/
def ipcpOption (s : Nat) (memory : Memory) (header : Nat) (request : Ncp.Request) (o : Nat) :
    Except State Ncp.Request :=
  let session := request.st.session s
  let wrong := memory (o + 1) ≠ 6
  let dns address : Except State Ncp.Request :=
    if wrong then .error request.st
    else
      let (asked, lost) := request.expect .ipcp s header memory o (bytes32 address)
      if lost then .error asked.st else .ok asked
  match (memory o).toNat with
  | 3 =>
      let seen := { request with gotip := true }
      if wrong then .error request.st
      else
        let (asked, lost) := seen.expect .ipcp s header memory o (bytes32 session.ip.toNat)
        let rejected := asked.answer ≠ request.answer ∧
          asked.answer.response.map Reply.code = some configRej
        if lost ∨ rejected then
          .error (sessionshutdown asked.st s "Can't negotiate IPCP." 3 0 (some .userError))
        else .ok asked
  | 129 => dns session.dns1.toNat
  | 131 => dns session.dns2.toNat
  | _ => request.reject header memory o

/-- Process an IPCP packet of `l` bytes. -/
def processipcp (st : State) (s t : Nat) (memory : Memory) (l : Nat) : State :=
  let hl := ntohs memory 2
  if l < 4 then st
  else if hl > l then st
  else if (st.session s).ppp.phase.code < Phase.network.code then st
  else ipcp.process (ipcpOption s memory) st s t memory hl

/-- Route the networks and the address of a session whose IPV6CP is open. -/
def ipv6cpOpen (st : State) (s : Nat) : State :=
  let opened := changeState st s .ipv6cp .opened
  let session := opened.session s
  let routed := (session.route6.takeWhile fun route => route.ipv6prefixlen ≠ 0).foldl
    (fun st route => route6set st s route.ipv6route route.ipv6prefixlen true) opened
  let addressed :=
    if hasIpv6 session.ipv6address ∧ sessionbyipv6 routed session.ipv6address ≠ s then
      route6set routed s session.ipv6address 128 true
    else routed
  sendIpv6Ra addressed s

def ipv6cp : Ncp := ⟨.ipv6cp, pppIpv6cp, sendipv6cp, ipv6cpOpen⟩

/-- The interface identifier of the peer: of its IPv6 address, or its IPv4 address. -/
def interfaceIdent (session : Session) : List UInt8 :=
  if hasIpv6 session.ipv6address then
    bytes32 (session.ipv6address / 2 ^ 32) ++ bytes32 session.ipv6address
  else bytes32 session.ip.toNat ++ [0, 0, 0, 0]

/-- One option of an IPV6CP request. -/
def ipv6cpOption (s : Nat) (memory : Memory) (header : Nat) (request : Ncp.Request) (o : Nat) :
    Except State Ncp.Request :=
  if memory o = 1 then
    let seen := { request with gotip := true }
    if memory (o + 1) ≠ 10 then .error request.st
    else
      let (asked, lost) := seen.expect .ipv6cp s header memory o
        (interfaceIdent (request.st.session s))
      if lost then .error asked.st else .ok asked
  else request.reject header memory o

/-- Process an IPV6CP packet of `l` bytes; it needs an IPv4 address. -/
def processipv6cp (st : State) (s t : Nat) (memory : Memory) (l : Nat) : State :=
  let hl := ntohs memory 2
  if l < 4 then st
  else if hl > l then st
  else if (st.session s).ppp.phase.code < Phase.network.code then st
  else if (st.session s).ip = 0 then st
  else ipv6cp.process (ipv6cpOption s memory) st s t memory hl

def ccp : Ncp := ⟨.ccp, pppCcp, sendccp, fun st s => changeState st s .ccp .opened⟩

/-- A request of CCP is acknowledged if it asks for no compression. -/
def ccpConfigReq (st : State) (s t : Nat) (memory : Memory) (l : Nat) : State :=
  let code := if l < 6 then configAck else configRej
  if pppFits st s t pppCcp l then
    ccp.reply st s (code = configAck) memory (readBytes (writeBytes memory 0 [code]) 0 l)
  else st

/-- Process a CCP packet of `l` bytes. -/
def processccp (st : State) (s t : Nat) (memory : Memory) (l : Nat) : State :=
  let code := memory 0
  if (st.session s).ppp.phase.code < Phase.network.code then st
  else if code = configAck then ccp.configAck st s
  else if code = configReq then ccpConfigReq st s t memory l
  else if code = terminateReq then
    if pppFits st s t pppCcp l then
      changeState (sendBack st s t pppCcp terminateAck memory l) s .ccp .stopped
    else st
  else if code = codeRej then st
  else pppCodeRej st s pppCcp memory l

end L2tpns.Server
