import L2tpns.Ppp.Opening

/-! # Setting a session up

A session that is authenticated joins its bundle, gets an address, zaps the sessions
with the same address or user, is routed and enters the network phase.
-/

namespace L2tpns.Server

/-- `epdiscmp` and the comparison of the users. -/
def matchesBundle (session : Session) (bundle : Bundle) : Bool :=
  bundle.isOpen && (session.epdis = bundle.epdis) && (session.user = bundle.user)

/-- The bundle of the other links of a session. -/
def findBundle (st : State) (s : Nat) : Option Nat :=
  (List.range' 1 (maxBundle - 1)).find? fun b => matchesBundle (st.session s) (st.bundle b)

def firstSessionInBundle (st : State) (s : Nat) : Bool := (findBundle st s).isNone

/-- Allocate a bundle for a first link; 0 if there is none. -/
def newBundle (st : State) : State × Nat :=
  match (List.range' 1 (maxBundle - 1)).find? fun b => ¬ (st.bundle b).isOpen with
  | some b =>
      ({ st.setBundle b fun bundle =>
          { bundle with
            numOfLinks := 1
            lastCheck := st.timeNow
            isOpen := true
            currentSes := 2 ^ 16 - 1 } with
        highestBundleid := max st.highestBundleid b }, b)
  | none => (st, 0)

/-- Join the bundle of the other links, or open one. The result is the bundle, 0 if
there is none left, or -1 if the links do not number their frames alike. -/
def joinBundle (st : State) (s : Nat) : State × Int :=
  let session := st.session s
  match findBundle st s with
  | some b =>
      let bundle := st.bundle b
      let first := st.session (bundle.members 0)
      if bundle.mssf ≠ session.mssf then (st, -1)
      else
        let joined := st.setSession s fun session =>
          { session with
            bundle := b
            ip := first.ip
            dns1 := first.dns1
            dns2 := first.dns2
            timeout := first.timeout }
        (joined.setBundle b fun bundle =>
          { bundle with
            members := Function.update bundle.members bundle.numOfLinks s
            numOfLinks := (bundle.numOfLinks + 1) % 2 ^ 8 }, b)
  | none =>
      let opened := (newBundle st).1
      let b := (newBundle st).2
      if b = 0 then (opened, 0)
      else
        let joined := opened.setSession s fun session => { session with bundle := b }
        (joined.setBundle b fun bundle =>
          { bundle with
            mrru := session.mrru
            mssf := session.mssf
            maxSeq := 2 ^ 24
            epdis := if session.epdis.address = [] then bundle.epdis else session.epdis
            user := session.user
            members := Function.update bundle.members 0 s
            timeout := session.timeout }, b)

/-- An ASCII letter in lower case. -/
def toLower (byte : UInt8) : UInt8 := if 65 ≤ byte ∧ byte ≤ 90 then byte + 32 else byte

/-- `strcasecmp` finds no difference. -/
def sameName (first second : List UInt8) : Bool := first.map toLower = second.map toLower

/-- Join a bundle, if the peer accepted one. The flag says whether setup goes on. -/
def setupBundle (st : State) (s : Nat) : State × Bool :=
  if 0 < (st.session s).mrru ∧ (st.session s).bundle = 0 then
    let joined := joinBundle st s
    if 0 < joined.2 then (joined.1.emit (.clusterBundle (joined.1.session s).bundle), true)
    else
      (sessionshutdown joined.1 s "Mismaching mssf option." 0 0 (some .serviceUnavailable), false)
  else (st, true)

/-- Assign an address of the pool, if the session has none. -/
def setupAddress (st : State) (s : Nat) : State × Bool :=
  if (st.session s).ip = 0 then
    let assigned := assignIpAddress st s
    if (assigned.session s).ip = 0 then
      (sessionshutdown assigned s "No IP addresses available." 2 7 (some .serviceUnavailable),
        false)
    else (assigned, true)
  else (st, true)

/-- What becomes of session `i` when `s` is set up with address `ip`. Links of one
bundle may share both; gardened sessions and guests may share the user. -/
def zapSession (st : State) (s : Nat) (ip : InAddr) (i : Nat) : State :=
  let session := st.session s
  let other := st.session i
  if session.bundle ≠ 0 ∧ other.bundle ≠ 0 ∧ session.bundle = other.bundle then st
  else if ip = other.ip then
    if st.config.suicideDuplicateIp then
      sessionkill st s (some "Duplicate IP. Suiciding") (some .callback)
    else if ¬ st.config.allowDuplicateIp then
      sessionkill st i (some "Duplicate IP address") (some .adminReset)
    else st
  else if st.config.allowDuplicateUsers then st
  else if session.walledGarden ∨ other.walledGarden then st
  else if st.config.guestUsers.any (sameName session.user) then st
  else if sameName session.user other.user then
    sessionshutdown st i "Duplicate session for users" 3 0 (some .adminReset)
  else st

/-- Zap the sessions from `i` on, among `count`, as long as `s` is open itself. -/
def zapSessions (st : State) (s : Nat) (ip : InAddr) (i : Nat) : Nat → State
  | 0 => st
  | count + 1 =>
      if i = s then zapSessions st s ip (i + 1) count
      else if (st.session s).opened = 0 then st
      else zapSessions (zapSession st s ip i) s ip (i + 1) count

/-- Route the session, unless it shares the address of its bundle. -/
def setupRoutes (st : State) (s : Nat) : State :=
  let session := st.session s
  if session.bundle = 0 ∨ (st.bundle session.bundle).numOfLinks = 1 then
    let routed := routesetAll st s true session.route
    if session.ipPoolIndex = -1 then
      if session.route.any (·.covers session.ip) then routed
      else routeset routed s session.ip 0 true
    else routed.cacheIp session.ip s
  else st

/-- The network phase, the plugins and the throttle. -/
def setupNetwork (st : State) (s : Nat) : State :=
  let authenticated := st.setLocal s fun own => { own with lcpAuthtype := 0 }
  let told := (lcpOpen authenticated s).emit (.newSession s)
  let session := told.session s
  let throttled :=
    if session.throttleIn ≠ 0 ∨ session.throttleOut ≠ 0 then
      throttleSession told s session.throttleIn session.throttleOut
    else told
  (throttled.setSession s fun session =>
    { session with lastPacket := st.timeNow, lastData := st.timeNow }).emit (.clusterSession s)

/-- A session now exists, set it up. -/
def sessionsetup (st : State) (s t : Nat) : State :=
  let bundled := setupBundle st s
  if bundled.2 then
    let addressed := setupAddress bundled.1 s
    if addressed.2 then
      let placed := addressed.1.setSession s fun session => { session with tunnel := t }
      let ip := (placed.session s).ip
      let zapped := zapSessions placed s ip 1 placed.highestSessionid
      setupNetwork (setupRoutes zapped s) s
    else addressed.1
  else bundled.1

end L2tpns.Server
