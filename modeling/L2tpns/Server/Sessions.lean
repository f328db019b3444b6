import L2tpns.Ppp.Automaton
import L2tpns.Server.Tunnels

/-! # Opening sessions, and taking the table over

Three functions take a session from the free list by hand: the ICRQ case of
`processudp`, `pppoe_recv_PADR` and `lac_create_tunnelsession`. A new master strings
the list again.
-/

namespace L2tpns.Server

/-- Take session `s`, the head of the free list, for tunnel `t`. -/
def openSession (st : State) (s t : Nat) : State :=
  let unlinked := st.setSession 0 fun head => { head with next := (st.session s).next }
  let cleared := unlinked.setSession s fun _ => .zero
  let counted := { cleared with highestSessionid := max cleared.highestSessionid s }
  counted.setSession s fun session =>
    { session with
      opened := st.timeNow
      tunnel := t
      lastPacket := st.timeNow
      ppp := { session.ppp with phase := .establish, lcp := .starting } }

/-- The first open session of a tunnel that the peer knows by this number. -/
def findSession (st : State) (t far : Nat) : Option Nat :=
  (List.range' 1 st.highestSessionid).find? fun s =>
    (st.session s).opened ≠ 0 ∧ (st.session s).tunnel = t ∧ (st.session s).far = far

/-- The entry that an ICRQ on tunnel `t` takes. A session that the peer knows by the same
number is killed, and its entry taken again. -/
def icrqEntry (st : State) (t asession : Nat) : State × Nat :=
  match findSession st t asession with
  | some s => (sessionkill st s none (some .adminReset), s)
  | none => (st, st.sessionfree)

/-- The case of an ICRQ on tunnel `t`. -/
def icrq (st : State) (quitting : Bool) (t asession : Nat) : State :=
  if st.sessionfree ≠ 0 ∧ ¬ quitting then
    let entry := icrqEntry st t asession
    let created := openSession entry.1 entry.2 t
    let known := created.setSession entry.2 fun session =>
      { session with far := asession, lastData := st.timeNow }
    known.emit (.control t asession 11)
  else st.emit (.control t asession 14)

/-- The end of `pppoe_recv_PADR`, after its checks. -/
def pppoeRecvPadr (st : State) : State :=
  let sid := st.sessionfree
  let created := openSession st sid tunnelIdPppoe
  let known := created.setSession sid fun session =>
    { session with lastData := st.timeNow, magic := st.timeNow, mru := 1492 }
  let configured := known.setLocal sid fun own =>
    { own with
      lcpAuthtype := st.config.radiusAuthprefer
      pppMru := st.config.mru
      mpMrru := 1614
      mpEpdis := st.config.localAddress.toNat }
  changeState (sendlcp (configured.emit (.pads sid)) sid) sid .lcp .requestSent

/-- A remote LNS: its number in the configuration, address and port. -/
structure RemoteLns where
  index : Nat
  ip : Nat
  port : Nat
deriving DecidableEq, Repr

/-- Ask a remote LNS for a tunnel; whether one was free. -/
def lacOpenTunnel (st : State) (lns : RemoteLns) : State × Bool :=
  let assigned := newTunnel st
  let t := assigned.2
  if t = 0 then (assigned.1, false)
  else
    let cleared := (tunnelclear assigned.1 t).setTunnel t fun tunnel =>
      { tunnel with ip := lns.ip, port := lns.port, isremotelns := lns.index, state := .opening }
    (cleared.emit (.control t 0 1), true)

/-- Open a session on a tunnel to a remote LNS, and link it to `s`. -/
def lacOpenSession (st : State) (t s : Nat) (puser : List UInt8) : State :=
  let newSess := st.sessionfree
  let created := openSession st newSess t
  let touched := created.setSession s fun session =>
    { session with lastData := st.timeNow, ppp := { session.ppp with phase := .establish } }
  let asked := touched.emit (.control t 0 10)
  let forwarded := asked.setSession s fun session =>
    { session with forwardtosession := newSess, user := puser }
  forwarded.setSession newSess fun session =>
    { session with forwardtosession := s, user := puser }

/-- Forward session `s` over tunnel `t`, or over a new one if that is 0. The flag says
whether the session is to be forwarded. -/
def lacCreateTunnelsession (st : State) (quitting : Bool) (t s : Nat) (lns : RemoteLns)
    (puser : List UInt8) : State × Bool :=
  if t = 0 then
    if quitting then (st, false) else lacOpenTunnel st lns
  else if (st.tunnel t).state = .opened then
    if quitting then (tunnelshutdown st t "Shutting down" 6, true)
    else (lacOpenSession st t s puser, true)
  else (st, true)

/-- The tunnel to a remote LNS that RADIUS has named; 0 if there is none. -/
def lacRadTunnel (st : State) (lns : RemoteLns) : Nat :=
  ((List.range' 1 st.highestTunnelid).find? fun t =>
    let tunnel := st.tunnel t
    tunnel.isremotelns = lns.index ∧ tunnel.ip = lns.ip ∧ tunnel.port = lns.port ∧
      (tunnel.state = .opened ∨ tunnel.state = .opening)).getD 0

/-- Forward a session to the remote LNS whose assignment id RADIUS has sent, if there is
one. -/
def lacRadForwardtoremotelns (st : State) (quitting : Bool) (s : Nat) (lns : Option RemoteLns)
    (puser : List UInt8) : State × Bool :=
  match lns with
  | some lns => lacCreateTunnelsession st quitting (lacRadTunnel st lns) s lns puser
  | none => (st, false)

/-- `T_UNDEF`: the session has not been filled in. -/
def tUndef : Nat := 0xffff

/-- An open session of the old master: its idle timeouts start again, a time to die is
now, and it has no RADIUS slot. -/
def resetSession (st : State) (i : Nat) : State :=
  (st.setSession i fun session =>
    { session with
      tunnel := if session.tunnel = tUndef then 0 else session.tunnel
      lastPacket := st.timeNow
      lastData := st.timeNow
      die := if session.die = 0 then 0 else st.time }).setLocal i fun own =>
    { own with radius := 0 }

/-- One session in the loop of `cluster_check_master`, with the last free session before
it. A free one is appended to the list. -/
def restringSession (st : State) (lastFree i : Nat) : State × Nat :=
  if (st.session i).opened = 0 then
    let cleared := st.setSession i fun _ => .zero
    let linked := cleared.setSession lastFree fun session => { session with next := i }
    (linked.setSession i fun session => { session with next := 0 }, i)
  else
    let reset := resetSession st i
    let counted := { reset with lastId := max reset.lastId ((st.session i).uniqueId + 1) }
    let throttled := throttleSession counted i (st.session i).throttleIn
      (st.session i).throttleOut
    ({ throttled with highestSessionid := i }, lastFree)

/-- The sessions from `i` on, `count` of them. -/
def restringSessions (st : State) (lastFree i : Nat) : Nat → State × Nat
  | 0 => (st, lastFree)
  | count + 1 =>
      let restrung := restringSession st lastFree i
      restringSessions restrung.1 restrung.2 (i + 1) count

/-- The sessions of a new master. -/
def takeSessions (st : State) : State :=
  let restrung := restringSessions { st with highestSessionid := 0, lastId := 0 } 0 0 maxSession
  restrung.1.setSession restrung.2 fun session => { session with next := 0 }

end L2tpns.Server
