import L2tpns.Server.Sessions
import L2tpns.Server.Setup

/-! # Answers of the RADIUS servers

`processrad` applies an answer to the session whose request occupies the slot, and frees
the slot. `radiusretry` sends a request again. The attributes of an Access-Accept are
given as they are decoded; post-authentication plugins are left out.
-/

namespace L2tpns.Server

/-- `find_filter` for a filter that has the name: only those that have one are found. -/
def findFilter (st : State) (name : List UInt8) : Option Nat :=
  (List.range maxFilter).find? fun f => st.filterName f ≠ [] ∧ st.filterName f = name

/-- Take a reference to a filter; 0 stands for no filter. -/
def useFilter (st : State) (filter : Nat) : State :=
  if filter = 0 then st
  else { st with
    filterUsed := Function.update st.filterUsed (filter - 1) (st.filterUsed (filter - 1) + 1) }

inductive FilterSide where
  | inbound
  | outbound
deriving DecidableEq, Repr

/-- An attribute of an Access-Accept; one that is ignored here is `other`. -/
inductive RadAttribute where
  | framedIp (ip : InAddr)
  | dns1 (ip : InAddr)
  | dns2 (ip : InAddr)
  | framedRoute (ip : InAddr) (prefixlen : Nat)
  | filterId (side : FilterSide) (name : List UInt8)
  | sessionTimeout (seconds : Nat)
  | framedIpv6Route (route prefixlen : Nat)
  | framedIpv6Address (ip : Nat)
  | walledGarden
  | tunnelType
  | other
deriving DecidableEq, Repr

/-- Put an entry at a position of a list of routes. -/
def putRoute {α : Type} (routes : List α) (position : Nat) (route : α) : List α :=
  routes.take position ++ [route] ++ routes.drop (position + 1)

/-- How far the attributes of an Access-Accept are applied. -/
structure Accepting where
  st : State
  routes : Nat
  routes6 : Nat
  opentunnelReq : Bool

/-- Apply one attribute to session `s`. -/
def applyAttribute (s : Nat) (accepting : Accepting) (item : RadAttribute) : Accepting :=
  let st := accepting.st
  match item with
  | .framedIp ip =>
      { accepting with
        st := st.setSession s fun session =>
          { session with ip := if ip = 0xFFFFFFFE then 0 else ip, ipPoolIndex := -1 } }
  | .dns1 ip => { accepting with st := st.setSession s fun session => { session with dns1 := ip } }
  | .dns2 ip => { accepting with st := st.setSession s fun session => { session with dns2 := ip } }
  | .framedRoute ip prefixlen =>
      if accepting.routes = maxRoute ∨ ip = 0 then accepting
      else
        { accepting with
          st := st.setSession s fun session =>
            { session with route := putRoute session.route accepting.routes ⟨ip, prefixlen⟩ }
          routes := accepting.routes + 1 }
  | .filterId side name =>
      match findFilter st name with
      | none => accepting
      | some f =>
          let referred := st.setSession s fun session =>
            match side with
            | .inbound => { session with filterIn := f + 1 }
            | .outbound => { session with filterOut := f + 1 }
          { accepting with st := useFilter referred (f + 1) }
  | .sessionTimeout seconds =>
      let timed := st.setSession s fun session => { session with sessionTimeout := seconds }
      { accepting with
        st :=
          if seconds = 0 ∧ st.config.killTimedoutSessions then
            sessionshutdown timed s "Session timeout is zero" 3 0 none
          else timed }
  | .framedIpv6Route route prefixlen =>
      if accepting.routes6 = maxRoute6 ∨ prefixlen = 0 then accepting
      else
        { accepting with
          st := st.setSession s fun session =>
            { session with route6 := putRoute session.route6 accepting.routes6 ⟨route, prefixlen⟩ }
          routes6 := accepting.routes6 + 1 }
  | .framedIpv6Address ip =>
      { accepting with st := st.setSession s fun session => { session with ipv6address := ip } }
  | .walledGarden =>
      { accepting with st := st.setSession s fun session => { session with walledGarden := true } }
  | .tunnelType => { accepting with opentunnelReq := true }
  | .other => accepting

inductive RadCode where
  | accessAccept
  | accessReject
  | accountingResponse
  | other
deriving DecidableEq, Repr

/-- An answer: the socket and the identifier name the slot, and `authentic` says whether
the authenticator fits the request. An accept may name an assignment id; `remoteLns` is
the remote LNS of the configuration that has it. -/
structure RadAnswer where
  socketIndex : Nat
  id : Nat
  authentic : Bool
  code : RadCode
  attributes : List RadAttribute
  assignmentId : Bool
  remoteLns : Option RemoteLns

def RadAnswer.slot (answer : RadAnswer) : Nat := answer.socketIndex ||| answer.id <<< 6

/-- The states in which a slot waits for an answer. -/
def RadiusState.isAwaiting : RadiusState → Bool
  | .auth | .justauth | .start | .stop | .interim => true
  | _ => false

def RadiusState.expects (state : RadiusState) (code : RadCode) : Bool :=
  if state.isAuth then code = .accessAccept || code = .accessReject
  else code = .accountingResponse

/-- A session that is forwarded keeps no address and no route. The loop over the routes
counts `r`, the slot, instead of the position. -/
def clearForwarded (st : State) (s r : Nat) : State × Nat :=
  let unaddressed := st.setSession s fun session => { session with ip := 0 }
  if r < maxRoute ∧ (unaddressed.session s).route ≠ [] then
    (unaddressed.setSession s fun session => { session with route := [] }, r + 1)
  else (unaddressed, r)

/-- Tell the peer that it is authenticated, and set the session up. -/
def finishAccept (st : State) (r s t : Nat) : State :=
  let proto := if (st.radius r).chap then pppChap else pppPap
  let code : UInt8 := if (st.radius r).chap then 3 else 2
  let told := st.emit (.ppp s proto [code, UInt8.ofNat (st.radius r).id])
  let numbered := told.setSession s fun session =>
    { session with
      dns1 := if session.dns1 = 0 then st.config.defaultDns1 else session.dns1
      dns2 := if session.dns2 = 0 then st.config.defaultDns2 else session.dns2
      uniqueId := 0 }
  sessionsetup numbered s t

/-- An Access-Accept. The result names the slot to be freed. -/
def accessAccept (st : State) (quitting : Bool) (r s : Nat) (answer : RadAnswer) :
    State × Nat :=
  let t := (st.session s).tunnel
  let accepted := answer.attributes.foldl (applyAttribute s) ⟨st, 0, 0, false⟩
  let applied := accepted.st
  if ¬ applied.config.disableLacFunc ∧ accepted.opentunnelReq then
    if ¬ answer.assignmentId then (applied, r)
    else
      let forwarded := lacRadForwardtoremotelns applied quitting s answer.remoteLns
        (applied.session s).user
      if forwarded.2 then clearForwarded forwarded.1 s r
      else (finishAccept forwarded.1 r s t, r)
  else (finishAccept applied r s t, r)

/-- Process an answer. -/
def processrad (st : State) (quitting : Bool) (answer : RadAnswer) : State :=
  let r := answer.slot
  let slot := st.radius r
  let s := slot.session
  if s = 0 ∧ slot.state ≠ .stop then st
  else if ¬ slot.state.isAwaiting then st
  else if ¬ answer.authentic then st
  else if ¬ slot.state.expects answer.code then st
  else
    let handled :=
      if ¬ slot.state.isAuth then (st, r)
      else if answer.code = .accessAccept then accessAccept st quitting r s answer
      else (sessionkill st s (some "Authentication rejected") (some .adminReset), r)
    radiusclear handled.1 handled.2 s

/-- Send a request again, or free a slot that is not waiting for an answer. -/
def radiusretry (st : State) (r : Nat) : State :=
  let s := (st.radius r).session
  match (st.radius r).state with
  | .chap => sendchap st s
  | .null | .wait => radiusclear st r s
  | state => radiussend st r state

end L2tpns.Server
