import L2tpns.Server.AddressPool

/-! # Closing a session

`sessionshutdown` starts the tidy end of a session: it notes when the session is to
be killed, accounts for it, takes its routes and its address back, removes it from
its bundle and tells the peer. `sessionkill` clears the record. RADIUS requests are
sent from slots that are allocated here.

The steps of `sessionshutdown` are definitions of their own, in the order in which
the source has them.
-/

namespace L2tpns.Server

/-- When to retry: an exponential backoff bounded by 32 seconds. -/
def backoff (st : State) (tries : Nat) : Nat := (st.time + 10 * 2 ^ min tries 5) % 2 ^ 32

/-- Free a slot, and forget it in the session `s` unless that is 0. -/
def radiusclear (st : State) (r s : Nat) : State :=
  let forgotten := if s = 0 then st else st.setLocal s fun own => { own with radius := 0 }
  forgotten.setRadius r fun _ => .zero

/-- Look for a free slot, at most `count` after the last one that was looked at. The
result is the last one looked at and the slot found, or 0. -/
def getFreeRadius (st : State) : Nat → Nat → Nat × Nat
  | 0, last => (last, 0)
  | count + 1, last =>
      let next := if maxRadius ≤ last + 1 then 1 else last + 1
      if (st.radius next).state = .null then (next, next) else getFreeRadius st count next

/-- The slot of a session: the one it has, or a free one; 0 if there is none. -/
def radiusnew (st : State) (s : Nat) : State × Nat :=
  if (st.sessLocal s).radius ≠ 0 then (st, (st.sessLocal s).radius)
  else
    let found := getFreeRadius st maxRadius st.nextRadiusId
    let looked := { st with nextRadiusId := found.1 }
    if found.2 = 0 then (looked, 0)
    else
      let owned := looked.setLocal s fun own => { own with radius := found.2 }
      (owned.setRadius found.2 fun _ =>
        { Radius.zero with session := s, state := .wait, retry := (st.time + 1200) % 2 ^ 32 },
        found.2)

/-- Requests for authentication, which are sent also when accounting is off. -/
def RadiusState.isAuth : RadiusState → Bool
  | .auth | .justauth => true
  | _ => false

/-- Send a RADIUS request from a slot. `timeout` is what is done with the session
when an authentication request was sent too often. -/
def radiussendOr (timeout : State → Nat → State) (st : State) (r : Nat)
    (request : RadiusState) : State :=
  let s := (st.radius r).session
  if st.config.numradiusservers = 0 then st
  else if st.config.radiussecret = [] then st
  else if ¬ request.isAuth ∧ ¬ st.config.radiusAccounting then radiusclear st r s
  else
    let tried := if (st.radius r).state = request then (st.radius r).tries else 0
    let counted := st.setRadius r fun slot =>
      { slot with
        state := request
        retry := (backoff st tried + 20) % 2 ^ 32
        tries := (tried + 1) % 2 ^ 8 }
    if st.config.numradiusservers * 2 < (tried + 1) % 2 ^ 8 then
      if s = 0 then counted.setRadius r fun slot => { slot with state := .wait, retry := 100 }
      else if request.isAuth then timeout counted s
      else radiusclear counted r s
    else
      let sent := counted.emit (.radius request r s)
      if request = .start ∧ s ≠ 0 then
        sent.setLocal s fun own => { own with lastInterim := st.timeNow }
      else sent

/-- Send an accounting request; the session is never shut down for it. -/
def radiussendAccounting (st : State) (r : Nat) (request : RadiusState) : State :=
  radiussendOr (fun st _ => st) st r request

/-- Tell the plugins once, and note when to kill the session, in 15 seconds. -/
def announceKill (st : State) (s : Nat) : State :=
  if (st.session s).die = 0 then
    (st.emit (.killSession s)).setSession s fun session =>
      { session with die := (st.time + 150) % 2 ^ 32 }
  else st

/-- Note when to kill the session, unless that is noted already. -/
def markDying (st : State) (s : Nat) : State :=
  if (st.session s).die = 0 then
    st.setSession s fun session => { session with die := (st.time + 150) % 2 ^ 32 }
  else st

/-- Start a Stop request, if it is not under way. -/
def startStop (st : State) (s : Nat) (reason : String) (termCause : Option TermCause) : State :=
  let allocated := (radiusnew st s).1
  let r := (radiusnew st s).2
  if r = 0 then allocated
  else if (allocated.radius r).state = .stop then allocated
  else
    radiussendAccounting (allocated.setRadius r fun slot =>
      { slot with termCause := termCause, termMsg := reason }) r .stop

/-- Save the counters for the accounting file, if there is room. -/
def saveCounters (st : State) (s : Nat) : State :=
  if st.config.accountingDir ≠ [] ∧ st.shutAcct.length < maxShutAcct then
    { st with shutAcct := st.shutAcct ++ [(s, st.session s)] }
  else st

/-- Add or delete an IPv6 route of a session, if IPv6 is configured. -/
def route6set (st : State) (s ip prefixlen : Nat) (add : Bool) : State :=
  if st.config.ipv6Prefix.headD 0 = 0 then st
  else
    let routed := st.emit (.route6 s ip prefixlen add)
    if s = 0 then routed else routed.cacheIp6 ip prefixlen (if add then s else 0)

/-- The first byte of an IPv6 address is not zero. -/
def hasIpv6 (ip : Nat) : Bool := ip / 2 ^ 120 ≠ 0

/-- Clear and unroute the IPv6 routes and address. -/
def unroute6 (st : State) (s : Nat) (delRoutes : Bool) : State :=
  let session := st.session s
  let routes := session.route6.takeWhile fun route =>
    hasIpv6 route.ipv6route && route.ipv6prefixlen ≠ 0
  let cleared := st.setSession s fun session =>
    { session with route6 := if routes = [] then session.route6 else [] }
  if delRoutes then
    let unrouted := routes.foldl
      (fun st route => route6set st s route.ipv6route route.ipv6prefixlen false) cleared
    if hasIpv6 session.ipv6address then route6set unrouted s session.ipv6address 128 false
    else unrouted
  else cleared

/-- Clear and unroute the IPv4 routes, and give the address back. A static address
that a route covers went with the route. -/
def unroute (st : State) (s : Nat) (delRoutes : Bool) : State :=
  let session := st.session s
  let routed := session.route.any (·.covers session.ip)
  let deleted := if delRoutes then routesetAll st s false session.route else st
  let cleared := deleted.setSession s fun session => { session with route := [] }
  if session.ipPoolIndex = -1 then
    let unrouted :=
      if ¬ routed ∧ delRoutes then routeset cleared s session.ip 0 false else cleared
    unrouted.setSession s fun session => { session with ip := 0 }
  else freeIpAddress cleared s

/-- Map the routes and the address of the new first link of a bundle. -/
def takeOver (st : State) (s : Nat) : State :=
  let session := st.session s
  let routed := { st with ipHash := cacheRoutes st.ipHash s session.route }
  let mapped := routed.cacheIp session.ip s
  let routed6 := (session.route6.takeWhile fun route => route.ipv6prefixlen ≠ 0).foldl
    (fun st route => st.cacheIp6 route.ipv6route route.ipv6prefixlen s) mapped
  if hasIpv6 session.ipv6address then routed6.cacheIp6 session.ipv6address 128 s
  else routed6

/-- The position of a link in the first `count` members; 0 if it is not there. -/
def memberPosition (members : Nat → Nat) (s count : Nat) : Nat :=
  ((List.range count).find? fun position => members position = s).getD 0

/-- Drop a link from its bundle. The last link moves to its position, and if that is
the first, the addresses of the bundle are mapped to it. -/
def leaveBundle (st : State) (s b : Nat) : State :=
  if b = 0 then st
  else
    let links := ((st.bundle b).numOfLinks + 255) % 2 ^ 8
    let left :=
      if links = 0 then st.setBundle b fun _ => .zero
      else
        let counted := st.setBundle b fun bundle => { bundle with numOfLinks := links }
        let members := (st.bundle b).members
        if members links = s then counted
        else
          let position := memberPosition members s links
          let moved := counted.setBundle b fun bundle =>
            { bundle with members := Function.update members position (members links) }
          if position = 0 then takeOver moved (members links) else moved
    left.emit (.clusterBundle b)

/-- Set the throttle rates of a session with a user; a negative rate is kept. -/
def throttleSession (st : State) (s : Nat) (rateIn rateOut : Int) : State :=
  if (st.session s).opened = 0 ∨ (st.session s).user = [] then st
  else
    (st.setSession s fun session =>
      { session with
        throttleIn := if 0 ≤ rateIn then rateIn.toNat else session.throttleIn
        throttleOut := if 0 ≤ rateOut then rateOut.toNat else session.throttleOut }).emit
      (.throttle s rateIn rateOut)

/-- Unthrottle the session if it is throttled. -/
def unthrottle (st : State) (s : Nat) : State :=
  if (st.session s).throttleIn ≠ 0 ∨ (st.session s).throttleOut ≠ 0 then throttleSession st s 0 0
  else st

/-- Tell the peer, if there is a result code to tell. -/
def sendCdn (st : State) (s cdnResult cdnError : Nat) : State :=
  if cdnResult = 0 then st
  else if (st.session s).tunnel = tunnelIdPppoe then st.emit (.padt s)
  else st.emit (.cdn s cdnResult cdnError)

/-- Drop a reference to a filter; 0 stands for no filter. -/
def unuseFilter (st : State) (filter : Nat) : State :=
  if filter = 0 then st
  else { st with
    filterUsed := Function.update st.filterUsed (filter - 1) (st.filterUsed (filter - 1) - 1) }

/-- Clear the PPP state and stop its timers. -/
def clearPpp (st : State) (s : Nat) : State :=
  (st.setSession s fun session => { session with ppp := .zero }).setLocal s fun own =>
    { own with
      lcp := { own.lcp with restart := 0 }
      ipcp := { own.ipcp with restart := 0 }
      ipv6cp := { own.ipv6cp with restart := 0 }
      ccp := { own.ccp with restart := 0 } }

/-- Account for the session, if it has an address and the time to die is not noted. -/
def accountOnce (st : State) (s : Nat) (walledGarden : Bool) (reason : String)
    (termCause : Option TermCause) : State :=
  if (st.session s).ip ≠ 0 ∧ ¬ walledGarden ∧ (st.session s).die = 0 then
    saveCounters (startStop st s reason termCause) s
  else st

/-- Take the routes and the address back, unless the session has called back. -/
def dropRoutes (st : State) (s b : Nat) (delRoutes : Bool) (termCause : Option TermCause) :
    State :=
  if (st.session s).ip ≠ 0 ∧ termCause ≠ some .callback then
    leaveBundle (unroute6 (unroute st s delRoutes) s delRoutes) s b
  else st

/-- The end of a shutdown: unthrottle, tell the peer, drop the filters and the PPP
state, and tell the cluster. -/
def finishShutdown (st : State) (s cdnResult cdnError : Nat) : State :=
  let told := sendCdn (unthrottle st s) s cdnResult cdnError
  let unfiltered := unuseFilter (unuseFilter told (told.session s).filterIn)
    (told.session s).filterOut
  (clearPpp unfiltered s).emit (.clusterSession s)

/-- Start the tidy shutdown of a session. -/
def sessionshutdown (st : State) (s : Nat) (reason : String) (cdnResult cdnError : Nat)
    (termCause : Option TermCause) : State :=
  let walledGarden := (st.session s).walledGarden
  let b := (st.session s).bundle
  -- delete routes only for the last link of a bundle
  let delRoutes := b = 0 ∨ (st.bundle b).numOfLinks = 1
  if (st.session s).opened = 0 then st
  else
    -- the time to die is noted before it is asked for
    let accounted := accountOnce (announceKill st s) s walledGarden reason termCause
    let dropped := dropRoutes (markDying accounted s) s b delRoutes termCause
    finishShutdown dropped s cdnResult cdnError

/-- Clear the record of a session and put it on the free list. -/
def sessionclear (st : State) (s : Nat) : State :=
  let cleared := (st.setSession s fun _ => .zero).setLocal s fun _ => .zero
  let linked := cleared.setSession s fun session => { session with next := cleared.sessionfree }
  linked.setSession 0 fun head => { head with next := s }

def shutForKill (st : State) (s : Nat) (reason : Option String) (termCause : Option TermCause) :
    State :=
  if (st.session s).die = 0 then
    sessionshutdown st s (reason.getD "Murdered!") (if reason.isSome then 3 else 0) 0 termCause
  else st

/-- Free the slot of a session, if it has one. -/
def releaseSlot (st : State) (s : Nat) : State :=
  if (st.sessLocal s).radius = 0 then st else radiusclear st (st.sessLocal s).radius s

def shutLinked (st : State) (s : Nat) (reason : Option String) : State :=
  let linked := (st.session s).forwardtosession
  if linked ≠ 0 ∧ (st.session linked).forwardtosession = s then
    sessionshutdown st linked (reason.getD "Murdered!") 3 0 (some .adminReset)
  else st

/-- Kill a session now. -/
def sessionkill (st : State) (s : Nat) (reason : Option String) (termCause : Option TermCause) :
    State :=
  if (st.session s).opened = 0 then st
  else if (st.session s).next ≠ 0 then st
  else
    let released := releaseSlot (shutForKill st s reason termCause) s
    (sessionclear (shutLinked released s reason) s).emit (.clusterSession s)

/-- Send a RADIUS request; a session whose authentication is not answered is shut
down. -/
def radiussend (st : State) (r : Nat) (request : RadiusState) : State :=
  radiussendOr (fun st s => sessionshutdown st s "RADIUS timeout." 3 0
    (some .reauthenticationFailure)) st r request

end L2tpns.Server
