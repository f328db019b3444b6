import L2tpns.Ppp.Packets

/-! # LCP

`processlcp` negotiates the link: its options, among them which way the user
authenticates, and the state of the automaton.
-/

namespace L2tpns.Server

open Avp (Memory ntohs ntohl readBytes writeBytes)

def setAuthtype (st : State) (s authtype : Nat) : State :=
  st.setLocal s fun own => { own with lcpAuthtype := authtype }

/-- The authentication that an acknowledgement names last; 0 if it names none. -/
def ackedAuthtype (memory : Memory) (offsets : List Nat) : Nat :=
  offsets.foldl (fun authtype o =>
    if memory o = 3 then
      let proto := ntohs memory (o + 2)
      if proto = pppPap then authPap
      else if proto = pppChap ∧ memory (o + 4) = 5 then authChap
      else authtype
    else authtype) 0

/-- The case of a ConfigAck. -/
def lcpConfigAck (st : State) (s : Nat) (memory : Memory) (l : Nat) : State :=
  let authtype := ackedAuthtype memory (optionsOf memory l)
  let agreed :=
    if (st.session s).ip = 0 ∧ authtype ≠ 0 then setAuthtype st s authtype else st
  match (st.session s).ppp.lcp with
  | .requestSent => changeState (initialiseRestartCount agreed s .lcp) s .lcp .ackReceived
  | .ackReceived => changeState (sendlcp agreed s) s .lcp .requestSent
  | .opened => changeState (sendlcp (lcpRestart agreed s) s) s .lcp .requestSent
  | .ackSent => lcpOpen agreed s
  | _ => agreed

/-- A request that is being answered. -/
structure Negotiation where
  st : State
  answer : Answer
  changed : Bool

/-- The peer asks us to authenticate ourselves: the types we would accept from it are
suggested. -/
def lcpAuthOption (negotiation : Negotiation) (s header : Nat) (memory : Memory) (o : Nat) :
    Negotiation :=
  let st := negotiation.st
  let types := st.config.radiusAuthtypes
  let prefer := st.config.radiusAuthprefer
  let proto := ntohs memory (o + 2)
  if proto = pppPap ∧ types &&& authPap ≠ 0 then
    { negotiation with st := setAuthtype st s authPap }
  else if proto = pppChap ∧ types &&& authChap ≠ 0 ∧ memory (o + 4) = 5 then
    { negotiation with st := setAuthtype st s authChap }
  else
    let option := readBytes memory o (memory (o + 1)).toNat
    let first := addLcpAuth prefer
    if first = [] then negotiation
    else
      let (st, answer) := pppConfNak st s .lcp header negotiation.answer option (first.drop 2)
      let second := addLcpAuth (types - (types &&& prefer))
      if ¬ answer.lost ∧ answer.response.map Reply.code = some configNak ∧ types ≠ prefer ∧
          second ≠ [] then
        let (st, answer) := pppConfNak st s .lcp header answer option (second.drop 2)
        { negotiation with st := st, answer := answer }
      else { negotiation with st := st, answer := answer }

/-- One option of a ConfigReq. -/
def lcpReqOption (s header : Nat) (memory : Memory) (negotiation : Negotiation) (o : Nat) :
    Negotiation :=
  let st := negotiation.st
  let option := readBytes memory o (memory (o + 1)).toNat
  let nak value :=
    let (st, answer) := pppConfNak st s .lcp header negotiation.answer option value
    { negotiation with st := st, answer := answer }
  let accept change := { negotiation with st := st.setSession s change, changed := true }
  match (memory o).toNat with
  | 1 =>
      let mru := ntohs memory (o + 2)
      if minMtu ≤ mru then accept fun session => { session with mru := mru }
      else nak (bytes16 st.config.mru)
  | 2 => if ntohl memory (o + 2) = 0 then negotiation else nak [0, 0, 0, 0]
  | 3 => lcpAuthOption negotiation s header memory o
  | 4 | 5 | 7 | 8 => negotiation
  | 17 => accept fun session => { session with mrru := ntohs memory (o + 2) }
  | 18 => accept fun session => { session with mssf := 1 }
  | 19 =>
      let length := min (((memory (o + 1)).toNat + 253) % 2 ^ 8) 20
      accept fun session =>
        { session with
          epdis := ⟨(memory (o + 2)).toNat, readBytes memory (o + 3) length⟩ }
  | _ => { negotiation with answer := pppConfRej header negotiation.answer option }

/-- What the automaton does about a request, and the reply; none if the request is
ignored. -/
def lcpAnswerReq (st : State) (s : Nat) (acks : Bool) : State × Bool :=
  let answered := if acks then FsmState.ackSent else .requestSent
  match (st.session s).ppp.lcp with
  | .closed => (st, true)
  | .stopped =>
      (changeState (sendlcp (initialiseRestartCount st s .lcp) s) s .lcp answered, true)
  | .requestSent => (if acks then changeState st s .lcp .ackSent else st, true)
  | .ackReceived => (if acks then lcpOpen st s else st, true)
  | .opened => (changeState (sendlcp (lcpRestart st s) s) s .lcp answered, true)
  | .ackSent => (changeState st s .lcp answered, true)
  | .closing =>
      (sessionshutdown st s
        "LCP: ConfigReq in state Closing. This should not happen. Killing session." 3 0
        (some .lostService), true)
  | _ => (st, false)

/-- Answer a request, or say that LCP is closed. -/
def lcpReply (st : State) (s : Nat) (answer : Answer) (memory : Memory) (l : Nat) : State :=
  let closed := (st.session s).ppp.lcp = .closed
  let (next, replies) := lcpAnswerReq st s answer.acks
  if ¬ replies then next
  else if closed then sendTerminateAck next s pppLcp memory
  else next.emit (.ppp s pppLcp (answer.packet memory l))

/-- What the options of a request come to. -/
def lcpWalk (st : State) (s t : Nat) (memory : Memory) (l : Nat) : Negotiation :=
  (optionsOf memory l).foldl (lcpReqOption s (pppHeader st s t pppLcp) memory) ⟨st, .none, false⟩

/-- The cluster is told of what has changed. -/
def Negotiation.told (negotiation : Negotiation) (s : Nat) : State :=
  if negotiation.changed then negotiation.st.emit (.clusterSession s) else negotiation.st

/-- A request is dropped if there is no room for its acknowledgement. -/
def lcpDrops (st : State) (s t : Nat) (memory : Memory) (l : Nat) : Bool :=
  let walked := lcpWalk st s t memory l
  walked.answer.acks && ! pppFits (walked.told s) s t pppLcp l

def lcpConfigReq (st : State) (s t : Nat) (memory : Memory) (l : Nat) : State :=
  let walked := lcpWalk st s t memory l
  let told := walked.told s
  if lcpDrops st s t memory l then told else lcpReply told s walked.answer memory l

/-- What a refusal says about authentication: nothing, or the type to use, 0 for none. -/
structure Refused where
  st : State
  authtype : Option Nat

/-- One option of a ConfigNak or a ConfigRej. An option that is not ours ends the
session. -/
def lcpNakOption (s : Nat) (memory : Memory) (refused : Refused) (o : Nat) :
    Except State Refused :=
  let st := refused.st
  let nak := memory 0 = configNak
  let length := (memory (o + 1)).toNat
  let types := st.config.radiusAuthtypes
  let keep change : Except State Refused := .ok { refused with st := st.setLocal s change }
  let magic value := st.setSession s fun session => { session with magic := value }
  match (memory o).toNat with
  | 1 =>
      if nak then
        if length < 4 then .ok refused
        else keep fun own => { own with pppMru := ntohs memory (o + 2) }
      else keep fun own => { own with pppMru := 0 }
  | 3 =>
      let proto := ntohs memory (o + 2)
      if (refused.authtype.getD 0) > 0 then .ok refused
      else if nak then
        if length < 4 then .ok refused
        else if proto = pppPap then .ok { refused with authtype := some (types &&& authPap) }
        else if proto = pppChap ∧ length > 4 ∧ memory (o + 4) = 5 then
          .ok { refused with authtype := some (types &&& authChap) }
        else .ok refused
      else .ok { refused with authtype := some 0 }
  | 5 =>
      if nak ∧ length < 6 then .ok { refused with st := magic 0 }
      else
        let asked := if nak then ntohl memory (o + 2) else 0
        .ok { refused with st := (magic asked).emit (.clusterSession s) }
  | 17 => keep fun own => { own with mpMrru := if nak then ntohs memory (o + 2) else 0 }
  | 18 => keep fun own => { own with mpMssf := 0 }
  | 19 => if nak then .ok refused else keep fun own => { own with mpEpdis := 0 }
  | _ => .error (sessionshutdown st s "Unable to negotiate LCP." 3 0 (some .userError))

/-- What the automaton does about a refusal. -/
def lcpAnswerNak (st : State) (s : Nat) (memory : Memory) : State :=
  match (st.session s).ppp.lcp with
  | .closed | .stopped => sendTerminateAck st s pppLcp memory
  | .requestSent | .ackSent => sendlcp (initialiseRestartCount st s .lcp) s
  | .ackReceived => sendlcp st s
  | .opened => sendlcp (lcpRestart st s) s
  | _ => st

/-- Read a refusal: it ends the session, or the next request takes account of it. -/
def lcpRefusal (st : State) (s : Nat) (memory : Memory) (l : Nat) : Except State State :=
  match (optionsOf memory l).foldlM (lcpNakOption s memory) ⟨st, none⟩ with
  | .error ended => .error ended
  | .ok ⟨walked, none⟩ => .ok walked
  | .ok ⟨walked, some 0⟩ =>
      .error (sessionshutdown walked s "Unsupported authentication." 3 0 (some .userError))
  | .ok ⟨walked, some authtype⟩ => .ok (setAuthtype walked s authtype)

def lcpConfigNak (st : State) (s : Nat) (memory : Memory) (l : Nat) : State :=
  match lcpRefusal st s memory l with
  | .error ended => ended
  | .ok walked => lcpAnswerNak walked s memory

/-- The case of a TerminateReq. -/
def lcpTerminateReq (st : State) (s t : Nat) (memory : Memory) (l : Nat) : State :=
  match (st.session s).ppp.lcp with
  | .initial | .starting => st
  | .opened =>
      let down := changeState (zeroRestartCount (lcpRestart st s) s .lcp) s .lcp .closing
      sendBack down s t pppLcp terminateAck memory l
  | _ => sendBack st s t pppLcp terminateAck memory l

def rejectedProtocol (memory : Memory) (l : Nat) : Nat :=
  if l > 4 then
    let proto := (memory 4).toNat
    if l > 5 ∧ proto % 2 = 0 then proto * 2 ^ 8 + (memory 5).toNat else proto
  else 0

/-- The case of an EchoReq: our magic number is written over the peer's. -/
def lcpEchoReq (st : State) (s t : Nat) (memory : Memory) (l : Nat) : State :=
  let ppp := (st.session s).ppp
  let ours := writeBytes memory 4 (bytes32 (st.session s).magic)
  if ¬ pppFits st s t pppLcp l then st
  else
    let sent := sendBack st s t pppLcp echoReply ours l
    if ppp.phase = .network ∧ ppp.ipv6cp = .opened then sendIpv6Ra sent s else sent

/-- Process an LCP packet of `l` bytes. -/
def processlcp (st : State) (s t : Nat) (memory : Memory) (l : Nat) : State :=
  let hl := ntohs memory 2
  let code := memory 0
  if l < 4 then st
  else if hl > l then st
  else if (st.session s).die ≠ 0 then st
  else if code = configAck then lcpConfigAck st s memory hl
  else if code = configReq then lcpConfigReq st s t memory hl
  else if code = configNak ∨ code = configRej then lcpConfigNak st s memory hl
  else if code = terminateReq then lcpTerminateReq st s t memory hl
  else if code = protocolRej then
    if rejectedProtocol memory hl = pppIpv6cp then changeState st s .ipv6cp .closed else st
  else if code = echoReq then lcpEchoReq st s t memory hl
  else if code = echoReply ∨ code = codeRej then st
  else pppCodeRej st s pppLcp memory hl

end L2tpns.Server
