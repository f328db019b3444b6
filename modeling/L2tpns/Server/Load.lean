import L2tpns.Server.Authentication

/-! # Loading a session

A slave takes the sessions of the master over as they change. `load_session` compares the
update with what it has, and brings the maps from addresses to sessions and the use of the
filters up to date.
-/

namespace L2tpns.Server

/-- Whether the address or the IPv4 routes of a session change. -/
def addressChanges (old new : Session) : Bool := new.ip ≠ old.ip ∨ new.route ≠ old.route

/-- Delete the IPv4 routes and the address of session `s`, then its IPv6 routes and
address. -/
def removeOld (st : State) (s : Nat) : State :=
  let session := st.session s
  let routed := session.route.any (·.covers session.ip)
  let unrouted := routesetAll st s false session.route
  let unmapped :=
    if session.ip = 0 then unrouted
    else if session.ipPoolIndex = -1 then
      if routed then unrouted else routeset unrouted s session.ip 0 false
    else unrouted.cacheIp session.ip 0
  let unrouted6 := (session.route6.takeWhile fun route =>
      hasIpv6 route.ipv6route && route.ipv6prefixlen ≠ 0).foldl
    (fun st route => route6set st s route.ipv6route route.ipv6prefixlen false) unmapped
  if hasIpv6 session.ipv6address then route6set unrouted6 s session.ipv6address 128 false
  else unrouted6

/-- Add the IPv4 routes and the address of an update for session `s`. -/
def addNew (st : State) (s : Nat) (new : Session) : State :=
  let routed := new.route.any (·.covers new.ip)
  let added := routesetAll st s true new.route
  if new.ip = 0 then added
  else if new.ipPoolIndex = -1 then
    if routed then added else routeset added s new.ip 0 true
  else added.cacheIp new.ip s

/-- Add the IPv6 routes and address of an update, when IPV6CP comes to be open. -/
def addNew6 (st : State) (s : Nat) (new : Session) : State :=
  let opens : Bool := new.ppp.ipv6cp = .opened ∧ (st.session s).ppp.ipv6cp ≠ .opened
  let routed :=
    if opens then
      (new.route6.takeWhile fun route => route.ipv6prefixlen ≠ 0).foldl
        (fun st route => route6set st s route.ipv6route route.ipv6prefixlen true) st
    else st
  if hasIpv6 new.ipv6address ∧ opens then
    if sessionbyipv6 routed new.ipv6address ≠ s then route6set routed s new.ipv6address 128 true
    else routed
  else routed

/-- A filter of an update that is not defined is dropped. -/
def checkFilter (st : State) (filter : Nat) : Nat :=
  if filter ≠ 0 ∧ (maxFilter < filter ∨ st.filterName (filter - 1) = []) then 0 else filter

/-- Drop the reference to one filter and take one to another, if they differ. -/
def swapFilter (st : State) (old new : Nat) : State :=
  if new = old then st else useFilter (unuseFilter st old) new

/-- Note in the pool that session `s` uses its address, if its entry has that address. -/
def fixAddressPool (st : State) (s : Nat) : State :=
  let session := st.session s
  let ipid := session.ipPoolIndex
  if ipid < 0 ∨ (st.ipPoolSize : Int) < ipid then st
  else if (st.ipAddressPool ipid.toNat).address ≠ session.ip then st
  else
    st.setPool ipid.toNat fun entry =>
      { entry with assigned := true, session := s, last := st.timeNow, user := session.user }

/-- Load an update for session `s`; whether it was taken. -/
def loadSession (st : State) (s : Nat) (new : Session) : State × Bool :=
  if (maxIpPool : Int) ≤ new.ipPoolIndex ∨ maxTunnel ≤ new.tunnel then (st, false)
  else
    let old := st.session s
    let readdressed := if addressChanges old new then addNew (removeOld st s) s new else st
    let routed := addNew6 readdressed s new
    let checked := { new with
      filterIn := checkFilter routed new.filterIn
      filterOut := checkFilter routed new.filterOut }
    let filtered := swapFilter (swapFilter routed old.filterIn checked.filterIn)
      old.filterOut checked.filterOut
    let counted :=
      if checked.tunnel ≠ 0 ∧ filtered.highestSessionid < s then
        { filtered with highestSessionid := s }
      else filtered
    let copied := counted.setSession s fun _ => checked
    (if checked.ipPoolIndex ≠ -1 then fixAddressPool copied s else copied, true)

end L2tpns.Server
