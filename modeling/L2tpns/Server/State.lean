import L2tpns.Constants
import L2tpns.Foundation.PrefixTree
import L2tpns.Foundation.RadixTable
import Mathlib.Algebra.Group.Int.Defs
import Mathlib.Algebra.Group.Nat.Defs
import Mathlib.Logic.Function.Basic

/-! # Tables of the access server

Sessions, bundles, the pool of addresses, the map from addresses to sessions and
the outstanding RADIUS requests, as the functions that open and close sessions
use them. A table is a function of the index. Strings and byte arrays are lists of
bytes. What is handed to another component (the RADIUS socket, the tunnels, the
cluster, the kernel's routing table) is appended to `sent`.
-/

namespace L2tpns.Server

open Foundation Function

/-- PPP phases. -/
inductive Phase where
  | dead
  | establish
  | authenticate
  | network
  | terminate
deriving DecidableEq, Repr

/-- The phases are compared by their position. -/
def Phase.code : Phase → Nat
  | dead => 0
  | establish => 1
  | authenticate => 2
  | network => 3
  | terminate => 4

/-- States of the PPP automata. -/
inductive FsmState where
  | initial
  | starting
  | closed
  | stopped
  | closing
  | stopping
  | requestSent
  | ackReceived
  | ackSent
  | opened
deriving DecidableEq, Repr

/-- The PPP state of a session. -/
structure Ppp where
  phase : Phase
  lcp : FsmState
  ipcp : FsmState
  ipv6cp : FsmState
  ccp : FsmState
deriving DecidableEq, Repr

/-- The PPP state of cleared memory. -/
def Ppp.zero : Ppp := ⟨.dead, .initial, .initial, .initial, .initial⟩

/-- An IPv4 address in host order. -/
abbrev InAddr := UInt32

structure Route where
  ip : InAddr
  prefixlen : Nat
deriving DecidableEq, Repr

/-- An IPv6 route of a session, its address as a number. -/
structure Route6 where
  ipv6route : Nat
  ipv6prefixlen : Nat
deriving DecidableEq, Repr

/-- A multilink endpoint discriminator. -/
structure Epdis where
  addrClass : Nat
  address : List UInt8
deriving DecidableEq, Repr

/-- A session. `route` and `route6` are the entries before the first empty one. -/
structure Session where
  next : Nat
  far : Nat
  tunnel : Nat
  flags : Nat
  ppp : Ppp
  mru : Nat
  ip : InAddr
  ipPoolIndex : Int
  uniqueId : Nat
  magic : Nat
  pin : Nat
  pout : Nat
  cin : Nat
  cout : Nat
  throttleIn : Nat
  throttleOut : Nat
  filterIn : Nat
  filterOut : Nat
  opened : Nat
  die : Nat
  sessionTimeout : Nat
  lastPacket : Nat
  lastData : Nat
  dns1 : InAddr
  dns2 : InAddr
  route : List Route
  route6 : List Route6
  ipv6address : Nat
  user : List UInt8
  timeout : Nat
  mrru : Nat
  epdis : Epdis
  bundle : Nat
  mssf : Nat
  walledGarden : Bool
  forwardtosession : Nat
deriving DecidableEq, Repr

/-- A session whose memory is cleared. -/
def Session.zero : Session where
  next := 0
  far := 0
  tunnel := 0
  flags := 0
  ppp := .zero
  mru := 0
  ip := 0
  ipPoolIndex := 0
  uniqueId := 0
  magic := 0
  pin := 0
  pout := 0
  cin := 0
  cout := 0
  throttleIn := 0
  throttleOut := 0
  filterIn := 0
  filterOut := 0
  opened := 0
  die := 0
  sessionTimeout := 0
  lastPacket := 0
  lastData := 0
  dns1 := 0
  dns2 := 0
  route := []
  route6 := []
  ipv6address := 0
  user := []
  timeout := 0
  mrru := 0
  epdis := ⟨0, []⟩
  bundle := 0
  mssf := 0
  walledGarden := false
  forwardtosession := 0

/-- Restart timer and counters of a PPP automaton. -/
structure Restart where
  restart : Nat
  confSent : Nat
  nakSent : Nat
deriving DecidableEq, Repr

/-- What is kept for a session on this server only. -/
structure SessLocal where
  lcp : Restart
  ipcp : Restart
  ipv6cp : Restart
  ccp : Restart
  lcpIdent : Nat
  lcpAuthtype : Nat
  pppMru : Nat
  mpMrru : Nat
  mpMssf : Nat
  mpEpdis : Nat
  radius : Nat
  lastInterim : Nat
deriving DecidableEq, Repr

def SessLocal.zero : SessLocal :=
  ⟨⟨0, 0, 0⟩, ⟨0, 0, 0⟩, ⟨0, 0, 0⟩, ⟨0, 0, 0⟩, 0, 0, 0, 0, 0, 0, 0, 0⟩

inductive TunnelState where
  | free
  | opened
  | die
  | opening
  | undef
deriving DecidableEq, Repr

/-- A tunnel, without the queue of its control messages. -/
structure Tunnel where
  far : Nat
  ip : Nat
  port : Nat
  state : TunnelState
  last : Nat
  die : Nat
  lastrec : Nat
  isremotelns : Nat
  indexudp : Nat
deriving DecidableEq, Repr

/-- A tunnel whose memory is cleared. -/
def Tunnel.zero : Tunnel := ⟨0, 0, 0, .free, 0, 0, 0, 0, 0⟩

/-- A multilink bundle; `members` is used up to `numOfLinks`. -/
structure Bundle where
  isOpen : Bool
  timeout : Nat
  maxSeq : Nat
  numOfLinks : Nat
  lastCheck : Nat
  mrru : Nat
  mssf : Nat
  epdis : Epdis
  user : List UInt8
  currentSes : Nat
  members : Nat → Nat

def Bundle.zero : Bundle :=
  ⟨false, 0, 0, 0, 0, 0, 0, ⟨0, []⟩, [], 0, fun _ => 0⟩

/-- An entry of the address pool. -/
structure IpPool where
  address : InAddr
  assigned : Bool
  session : Nat
  last : Nat
  user : List UInt8
deriving DecidableEq, Repr

/-- A pool entry without an address. -/
def IpPool.zero : IpPool := ⟨0, false, 0, 0, []⟩

/-- States of a RADIUS request. -/
inductive RadiusState where
  | null
  | chap
  | auth
  | start
  | stop
  | interim
  | wait
  | justauth
deriving DecidableEq, Repr

/-- A slot for an outstanding RADIUS request. -/
structure Radius where
  session : Nat
  retry : Nat
  pass : List UInt8
  id : Nat
  tries : Nat
  state : RadiusState
  chap : Bool
  termCause : Option TermCause
  termMsg : String
deriving DecidableEq, Repr

def Radius.zero : Radius := ⟨0, 0, [], 0, 0, .null, false, none, ""⟩

/-- What is handed to other components. -/
inductive Effect where
  | radius (request : RadiusState) (slot session : Nat)
  | ppp (session proto : Nat) (packet : List UInt8)
  | ip (session : Nat) (packet : List UInt8)
  | control (tunnel session message : Nat)
  | cdn (session result error : Nat)
  | pads (session : Nat)
  | padt (session : Nat)
  | clusterTunnel (tunnel : Nat)
  | clusterSession (session : Nat)
  | clusterBundle (bundle : Nat)
  | route (ip : InAddr) (prefixlen : Nat) (add : Bool)
  | route6 (session ip prefixlen : Nat) (add : Bool)
  | throttle (session : Nat) (rateIn rateOut : Int)
  | killSession (session : Nat)
  | newSession (session : Nat)
deriving DecidableEq, Repr

/-- The part of the configuration that is read here. -/
structure Config where
  radiusAccounting : Bool
  numradiusservers : Nat
  radiussecret : List UInt8
  radiusAuthprefer : Nat
  radiusAuthtypes : Nat
  accountingDir : List UInt8
  allowDuplicateIp : Bool
  suicideDuplicateIp : Bool
  allowDuplicateUsers : Bool
  guestUsers : List (List UInt8)
  pppRestartTime : Nat
  pppMaxConfigure : Nat
  pppMaxFailure : Nat
  ipv6Prefix : List UInt8
  localAddress : InAddr
  hostname : List UInt8
  mru : Nat
  pppoeMru : Nat
  disableNoSpoof : Bool
  peerAddress : InAddr
  killTimedoutSessions : Bool
  disableLacFunc : Bool
  defaultDns1 : InAddr
  defaultDns2 : InAddr

/-- A configuration with everything off. -/
def Config.zero : Config where
  radiusAccounting := false
  numradiusservers := 0
  radiussecret := []
  radiusAuthprefer := 0
  radiusAuthtypes := 0
  accountingDir := []
  allowDuplicateIp := false
  suicideDuplicateIp := false
  allowDuplicateUsers := false
  guestUsers := []
  pppRestartTime := 0
  pppMaxConfigure := 0
  pppMaxFailure := 0
  ipv6Prefix := []
  localAddress := 0
  hostname := []
  mru := 0
  pppoeMru := 0
  disableNoSpoof := false
  peerAddress := 0
  killTimedoutSessions := false
  disableLacFunc := false
  defaultDns1 := 0
  defaultDns2 := 0

/-- `ip_hash`: three levels of branches and one of session ids. -/
abbrev IpHash := RadixTable Nat Nat 3

/-- `ipv6_hash`: nodes with a session id, branching by four bits. The root has none. -/
abbrev Ipv6Hash := PrefixTree Nat Nat

/-- The tables of the server. `time` is in tenths of a second, `timeNow` in seconds. -/
structure State where
  config : Config
  time : Nat
  timeNow : Nat
  session : Nat → Session
  sessLocal : Nat → SessLocal
  highestSessionid : Nat
  lastId : Nat
  tunnel : Nat → Tunnel
  highestTunnelid : Nat
  bundle : Nat → Bundle
  highestBundleid : Nat
  ipAddressPool : Nat → IpPool
  ipPoolSize : Nat
  ipHash : IpHash
  ipv6Hash : Ipv6Hash
  radius : Nat → Radius
  nextRadiusId : Nat
  filterName : Nat → List UInt8
  filterUsed : Nat → Int
  shutAcct : List (Nat × Session)
  sent : List Effect

/-- `MAXROUTE`. -/
def maxRoute : Nat := 10

/-- `MAXROUTE6`. -/
def maxRoute6 : Nat := 5

/-- `MAXFILTER`. -/
def maxFilter : Nat := 32

/-- `MAXSESSION`. -/
def maxSession : Nat := 60000

/-- `MAXBUNDLE`. -/
def maxBundle : Nat := 60000

/-- `MAXBUNDLESES`. -/
def maxBundleSes : Nat := 12

/-- `MAXIPPOOL`. -/
def maxIpPool : Nat := 131072

/-- `MAXRADIUS`. -/
def maxRadius : Nat := 2 ^ 14

/-- Size of the array of records saved for the accounting file. -/
def maxShutAcct : Nat := 8192

/-- `MAXETHER`. -/
def maxEther : Nat := 2618

/-- `MAXTUNNEL`. -/
def maxTunnel : Nat := 65535

/-- `TUNNEL_ID_PPPOE`. -/
def tunnelIdPppoe : Nat := 1

/-- The tables when the server starts: sessions and bundles are free, no request is
outstanding, and the pool is as configured. -/
def State.start (config : Config) (pool : Nat → IpPool) (ipPoolSize time timeNow : Nat) :
    State where
  config := config
  time := time
  timeNow := timeNow
  session := fun s =>
    if s = 0 then { Session.zero with next := 1 }
    else { Session.zero with next := if s + 1 < maxSession then s + 1 else 0, tunnel := 0xffff }
  sessLocal := fun _ => .zero
  highestSessionid := 0
  lastId := 0
  tunnel := fun t => if t = 0 then .zero else { Tunnel.zero with state := .undef }
  highestTunnelid := 0
  bundle := fun _ => .zero
  highestBundleid := 0
  ipAddressPool := pool
  ipPoolSize := ipPoolSize
  ipHash := .empty 0 3
  ipv6Hash := .leaf 0
  radius := fun _ => .zero
  nextRadiusId := 0
  filterName := fun _ => []
  filterUsed := fun _ => 0
  shutAcct := []
  sent := []

namespace State

/-- `sessionfree`: the head of the list of free sessions. -/
def sessionfree (st : State) : Nat := (st.session 0).next

/-- Change a session in place. -/
def setSession (st : State) (s : Nat) (change : Session → Session) : State :=
  { st with session := Function.update st.session s (change (st.session s)) }

def setLocal (st : State) (s : Nat) (change : SessLocal → SessLocal) : State :=
  { st with sessLocal := Function.update st.sessLocal s (change (st.sessLocal s)) }

def setTunnel (st : State) (t : Nat) (change : Tunnel → Tunnel) : State :=
  { st with tunnel := Function.update st.tunnel t (change (st.tunnel t)) }

def setBundle (st : State) (b : Nat) (change : Bundle → Bundle) : State :=
  { st with bundle := Function.update st.bundle b (change (st.bundle b)) }

def setPool (st : State) (i : Nat) (change : IpPool → IpPool) : State :=
  { st with ipAddressPool := Function.update st.ipAddressPool i (change (st.ipAddressPool i)) }

def setRadius (st : State) (r : Nat) (change : Radius → Radius) : State :=
  { st with radius := Function.update st.radius r (change (st.radius r)) }

def emit (st : State) (effect : Effect) : State := { st with sent := st.sent ++ [effect] }

variable {st : State} {s : Nat}

@[simp] theorem setSession_same (change : Session → Session) :
    (st.setSession s change).session s = change (st.session s) :=
  Function.update_self ..

theorem setSession_other {s' : Nat} (other : s' ≠ s) (change : Session → Session) :
    (st.setSession s change).session s' = st.session s' :=
  update_of_ne other ..

@[simp] theorem setLocal_same (change : SessLocal → SessLocal) :
    (st.setLocal s change).sessLocal s = change (st.sessLocal s) :=
  Function.update_self ..

theorem setLocal_other {s' : Nat} (other : s' ≠ s) (change : SessLocal → SessLocal) :
    (st.setLocal s change).sessLocal s' = st.sessLocal s' :=
  update_of_ne other ..

@[simp] theorem setTunnel_same (change : Tunnel → Tunnel) :
    (st.setTunnel s change).tunnel s = change (st.tunnel s) :=
  Function.update_self ..

theorem setTunnel_other {t : Nat} (other : t ≠ s) (change : Tunnel → Tunnel) :
    (st.setTunnel s change).tunnel t = st.tunnel t :=
  update_of_ne other ..

@[simp] theorem setPool_same (change : IpPool → IpPool) :
    (st.setPool s change).ipAddressPool s = change (st.ipAddressPool s) :=
  Function.update_self ..

theorem setPool_other {i : Nat} (other : i ≠ s) (change : IpPool → IpPool) :
    (st.setPool s change).ipAddressPool i = st.ipAddressPool i :=
  update_of_ne other ..

@[simp] theorem setRadius_same (change : Radius → Radius) :
    (st.setRadius s change).radius s = change (st.radius s) :=
  Function.update_self ..

theorem setRadius_other {r : Nat} (other : r ≠ s) (change : Radius → Radius) :
    (st.setRadius s change).radius r = st.radius r :=
  update_of_ne other ..

theorem setSession_eq {change : Session → Session} (same : change (st.session s) = st.session s) :
    st.setSession s change = st := by
  rw [setSession, same, update_eq_self]

theorem setRadius_id : st.setRadius s id = st := by
  rw [setRadius, id, update_eq_self]

theorem setRadius_setRadius (first second : Radius → Radius) :
    (st.setRadius s first).setRadius s second = st.setRadius s (second ∘ first) := by
  simp only [setRadius, update_self, update_idem, Function.comp_apply]

@[simp] theorem setRadius_sent (change : Radius → Radius) :
    (st.setRadius s change).sent = st.sent := rfl

@[simp] theorem setRadius_sessLocal (change : Radius → Radius) :
    (st.setRadius s change).sessLocal = st.sessLocal := rfl

@[simp] theorem setLocal_radius (change : SessLocal → SessLocal) :
    (st.setLocal s change).radius = st.radius := rfl

@[simp] theorem setLocal_session (change : SessLocal → SessLocal) :
    (st.setLocal s change).session = st.session := rfl

@[simp] theorem setBundle_session {b : Nat} (change : Bundle → Bundle) :
    (st.setBundle b change).session = st.session := rfl

@[simp] theorem setPool_session {i : Nat} (change : IpPool → IpPool) :
    (st.setPool i change).session = st.session := rfl

@[simp] theorem emit_radius (effect : Effect) : (st.emit effect).radius = st.radius := rfl

@[simp] theorem emit_session (effect : Effect) : (st.emit effect).session = st.session := rfl

theorem setSession_frame {α : Type} (view : Session → α) {change : Session → Session}
    (keeps : view (change (st.session s)) = view (st.session s)) (s' : Nat) :
    view ((st.setSession s change).session s') = view (st.session s') := by
  by_cases same : s' = s
  · rw [same, setSession_same, keeps]
  · rw [setSession_other same]

theorem setLocal_frame {α : Type} (view : SessLocal → α) {change : SessLocal → SessLocal}
    (keeps : view (change (st.sessLocal s)) = view (st.sessLocal s)) (s' : Nat) :
    view ((st.setLocal s change).sessLocal s') = view (st.sessLocal s') := by
  by_cases same : s' = s
  · rw [same, setLocal_same, keeps]
  · rw [setLocal_other same]

end State

end L2tpns.Server
