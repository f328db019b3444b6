import L2tpns.Server.State

/-! # The PPP automata of a session

The four automata share their states, their restart timers and the macros that change
them. A configuration request of LCP is written out, with the options that are on.
-/

namespace L2tpns.Server

/-- The automata of a session. -/
inductive Fsm where
  | lcp
  | ipcp
  | ipv6cp
  | ccp
deriving DecidableEq, Repr

def Ppp.state (ppp : Ppp) : Fsm → FsmState
  | .lcp => ppp.lcp
  | .ipcp => ppp.ipcp
  | .ipv6cp => ppp.ipv6cp
  | .ccp => ppp.ccp

def Ppp.setState (ppp : Ppp) (state : FsmState) : Fsm → Ppp
  | .lcp => { ppp with lcp := state }
  | .ipcp => { ppp with ipcp := state }
  | .ipv6cp => { ppp with ipv6cp := state }
  | .ccp => { ppp with ccp := state }

def SessLocal.timer (own : SessLocal) : Fsm → Restart
  | .lcp => own.lcp
  | .ipcp => own.ipcp
  | .ipv6cp => own.ipv6cp
  | .ccp => own.ccp

def SessLocal.setTimer (own : SessLocal) (timer : Restart) : Fsm → SessLocal
  | .lcp => { own with lcp := timer }
  | .ipcp => { own with ipcp := timer }
  | .ipv6cp => { own with ipv6cp := timer }
  | .ccp => { own with ccp := timer }

/-- The states in which the restart timer does not run. -/
def FsmState.isQuiet : FsmState → Bool
  | .initial | .starting | .closed | .stopped | .opened => true
  | _ => false

/-- `change_state`: the timer stops on a change to a state in which it does not run. -/
def changeState (st : State) (s : Nat) (fsm : Fsm) (new : FsmState) : State :=
  if (st.session s).ppp.state fsm = new then st
  else
    let stopped :=
      if new.isQuiet then st.setLocal s fun own => own.setTimer ⟨0, 0, 0⟩ fsm else st
    (stopped.setSession s fun session =>
      { session with ppp := session.ppp.setState new fsm }).emit (.clusterSession s)

/-- `restart_timer`: count a request and run the timer. -/
def restartTimer (st : State) (s : Nat) (fsm : Fsm) : State :=
  st.setLocal s fun own => own.setTimer
    { own.timer fsm with
      restart := st.timeNow + st.config.pppRestartTime
      confSent := (own.timer fsm).confSent + 1 } fsm

/-- `initialise_restart_count`. -/
def initialiseRestartCount (st : State) (s : Nat) (fsm : Fsm) : State :=
  st.setLocal s fun own => own.setTimer { own.timer fsm with confSent := 0, nakSent := 0 } fsm

/-- `zero_restart_count`: no more attempts. -/
def zeroRestartCount (st : State) (s : Nat) (fsm : Fsm) : State :=
  st.setLocal s fun own => own.setTimer
    { own.timer fsm with
      restart := st.timeNow + st.config.pppRestartTime
      confSent := st.config.pppMaxConfigure } fsm

def pppPap : Nat := 0xC023
def pppChap : Nat := 0xC223
def pppLcp : Nat := 0xC021
def pppIpcp : Nat := 0x8021
def pppIpv6cp : Nat := 0x8057
def pppCcp : Nat := 0x80FD

/-- `AUTHPAP`. -/
def authPap : Nat := 1

/-- `AUTHCHAP`. -/
def authChap : Nat := 2

/-- The code of a configuration request. -/
def configReq : UInt8 := 1

/-- A number of 16 bits in network order. -/
def bytes16 (n : Nat) : List UInt8 := [UInt8.ofNat (n / 2 ^ 8), UInt8.ofNat n]

theorem bytes16_pair (high low : UInt8) :
    bytes16 (high.toNat * 2 ^ 8 + low.toNat) = [high, low] := by
  have upper := high.toNat_lt
  have lower := low.toNat_lt
  simp only [bytes16, List.cons.injEq, ← UInt8.toNat_inj, UInt8.toNat_ofNat', and_true]
  omega

/-- A number of 32 bits in network order. -/
def bytes32 (n : Nat) : List UInt8 := bytes16 (n / 2 ^ 16) ++ bytes16 n

/-- A control packet: code, identifier and length before the options. -/
def controlPacket (code : UInt8) (ident : Nat) (options : List UInt8) : List UInt8 :=
  [code, UInt8.ofNat ident] ++ bytes16 (options.length + 4) ++ options

/-- `add_lcp_auth`: the option for CHAP (with MD5) or PAP. -/
def addLcpAuth (authtype : Nat) : List UInt8 :=
  if authtype = authChap then [3, 5] ++ bytes16 pppChap ++ [5]
  else if authtype = authPap then [3, 4] ++ bytes16 pppPap
  else []

def lcpOptions (session : Session) (own : SessLocal) : List UInt8 :=
  (if own.pppMru = 0 then [] else [1, 4] ++ bytes16 own.pppMru) ++
    (if own.lcpAuthtype = 0 then [] else addLcpAuth own.lcpAuthtype) ++
    (if session.magic = 0 then [] else [5, 6] ++ bytes32 session.magic) ++
    (if own.mpMrru = 0 then [] else [17, 4] ++ bytes16 own.mpMrru) ++
    (if own.mpEpdis = 0 then [] else [19, 7, 2] ++ bytes32 own.mpEpdis)

/-- Send a configuration request of LCP; its buffer always has room for the header. -/
def sendlcp (st : State) (s : Nat) : State :=
  let ident := ((st.sessLocal s).lcpIdent + 1) % 2 ^ 8
  let counted := st.setLocal s fun own => { own with lcpIdent := ident }
  restartTimer (counted.emit (.ppp s pppLcp
    (controlPacket configReq ident (lcpOptions (st.session s) (st.sessLocal s))))) s .lcp

end L2tpns.Server
