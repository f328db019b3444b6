import L2tpns.Ppp.Opening

/-! # The restart timers of the automata

`regular_cleanups` sends a configuration request again when its timer has run out. After
too many requests it gives up: LCP and IPCP end the session, IPV6CP and CCP stop.
-/

namespace L2tpns.Server

/-- Send a request again, or give up. -/
def resend (st : State) (s : Nat) (fsm : Fsm) (send : State → Nat → State)
    (giveUp : State → State) (next : FsmState) : State :=
  if ((st.sessLocal s).timer fsm).confSent < st.config.pppMaxConfigure then
    changeState (send st s) s fsm next
  else giveUp st

/-- The timer of one automaton. -/
def restartTimeout (st : State) (s : Nat) (fsm : Fsm) (send : State → Nat → State)
    (giveUp : State → State) : State :=
  if ((st.sessLocal s).timer fsm).restart ≤ st.timeNow then
    match (st.session s).ppp.state fsm with
    | .requestSent | .ackReceived => resend st s fsm send giveUp .requestSent
    | .ackSent => resend st s fsm send giveUp .ackSent
    | _ => st
  else st

def lcpTimeout (st : State) (s : Nat) : State :=
  restartTimeout st s .lcp sendlcp fun st =>
    sessionshutdown st s "No response to LCP ConfigReq." 3 0 (some .lostService)

def ipcpTimeout (st : State) (s : Nat) : State :=
  restartTimeout st s .ipcp sendipcp fun st =>
    sessionshutdown st s "No response to IPCP ConfigReq." 3 0 (some .lostService)

def ipv6cpTimeout (st : State) (s : Nat) : State :=
  restartTimeout st s .ipv6cp sendipv6cp fun st => changeState st s .ipv6cp .stopped

def ccpTimeout (st : State) (s : Nat) : State :=
  restartTimeout st s .ccp sendccp fun st => changeState st s .ccp .stopped

/-- The timers of an open session, as long as it is not dying. -/
def pppTimeouts (st : State) (s : Nat) : State :=
  if (st.session s).opened = 0 ∨ (st.session s).die ≠ 0 then st
  else
    let lcp := lcpTimeout st s
    if (lcp.session s).die ≠ 0 then lcp
    else
      let ipcp := ipcpTimeout lcp s
      if (ipcp.session s).die ≠ 0 then ipcp
      else ccpTimeout (ipv6cpTimeout ipcp s) s

end L2tpns.Server
