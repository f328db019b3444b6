import L2tpns.Ppp.Automaton
import L2tpns.Server.Shutdown

/-! # Opening and restarting the layers of a session

LCP that is opened leads to the authentication phase, or to the network phase where
IPCP is started. A CHAP challenge uses the RADIUS slot of the session.
-/

namespace L2tpns.Server

/-- Send a configuration request of IPCP. A session gets its unique number here. -/
def sendipcp (st : State) (s : Nat) : State :=
  let next := (st.lastId + 1) % 2 ^ 32
  let id := if next = 0 then 1 else next
  let numbered :=
    if (st.session s).uniqueId = 0 then
      { st with lastId := id }.setSession s fun session => { session with uniqueId := id }
    else st
  restartTimer (numbered.emit (.ppp s pppIpcp (controlPacket configReq
    ((numbered.session s).uniqueId % 2 ^ 4)
    ([3, 6] ++ bytes32 st.config.peerAddress.toNat)))) s .ipcp

/-- Send a configuration request of IPV6CP; we are `prefix::1`. -/
def sendipv6cp (st : State) (s : Nat) : State :=
  restartTimer (st.emit (.ppp s pppIpv6cp (controlPacket configReq
    ((st.session s).uniqueId % 2 ^ 4) ([1, 10] ++ [0, 0, 0, 0, 0, 0, 0, 1])))) s .ipv6cp

/-- Send a request of CCP for no compression. -/
def sendccp (st : State) (s : Nat) : State :=
  let ident := ((st.sessLocal s).lcpIdent + 1) % 2 ^ 8
  let counted := st.setLocal s fun own => { own with lcpIdent := ident }
  restartTimer (counted.emit (.ppp s pppCcp (controlPacket configReq ident []))) s .ccp

/-- Send a CHAP challenge; a session that does not answer is shut down. The challenge
itself is random. -/
def sendchap (st : State) (s : Nat) : State :=
  let allocated := (radiusnew st s).1
  let r := (radiusnew st s).2
  if r = 0 then allocated
  else
    let tried := if (allocated.radius r).state = .chap then (allocated.radius r).tries else 0
    let counted := allocated.setRadius r fun slot =>
      { slot with
        chap := true
        id := (slot.id + 1) % 2 ^ 8
        state := .chap
        retry := backoff st tried
        tries := (tried + 1) % 2 ^ 8 }
    if 5 < (tried + 1) % 2 ^ 8 then
      sessionshutdown counted s "CHAP timeout." 3 0 (some .reauthenticationFailure)
    else
      counted.emit (.ppp s pppChap [1, UInt8.ofNat (counted.radius r).id])

/-- `SESSION_STARTED`: a Start record was sent. -/
def sessionStarted : Nat := 4

def Session.isStarted (session : Session) : Bool := session.flags &&& sessionStarted ≠ 0

/-- IPCP is open: the session is active. -/
def ipcpOpen (st : State) (s : Nat) : State :=
  let opened := changeState st s .ipcp .opened
  let allocated := (radiusnew opened s).1
  let r := (radiusnew opened s).2
  let started :=
    if (opened.session s).walledGarden ∨ (opened.session s).isStarted then opened
    else if r = 0 then allocated
    else
      ((radiussend allocated r .start).setSession s fun session =>
        { session with flags := session.flags ||| sessionStarted }).emit (.clusterSession s)
  if (started.session s).ppp.ipv6cp = .stopped then
    changeState (sendipv6cp started s) s .ipv6cp .requestSent
  else started

/-- LCP is open: on to the authentication or the network phase. -/
def lcpOpen (st : State) (s : Nat) : State :=
  let phase := if (st.sessLocal s).lcpAuthtype ≠ 0 then Phase.authenticate else .network
  let entered := st.setSession s fun session => { session with ppp := { session.ppp with phase } }
  let opened := changeState entered s .lcp .opened
  if phase = .authenticate then
    if (opened.sessLocal s).lcpAuthtype = authChap then sendchap opened s else opened
  else
    let b := (opened.session s).bundle
    if b = 0 ∨ (opened.bundle b).numOfLinks = 1 then
      let sent := changeState (sendipcp opened s) s .ipcp .requestSent
      let ipv6 := if st.config.ipv6Prefix.headD 0 = 0 then FsmState.closed else .stopped
      changeState (changeState sent s .ipv6cp ipv6) s .ccp .stopped
    else ipcpOpen opened s

/-- LCP negotiates again. -/
def lcpRestart (st : State) (s : Nat) : State :=
  let entered := st.setSession s fun session =>
    { session with ppp := { session.ppp with phase := .establish } }
  changeState (changeState (changeState entered s .ipcp .initial) s .ipv6cp .initial) s .ccp
    .initial

end L2tpns.Server
