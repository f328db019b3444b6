import L2tpns.Ppp.Packets
import L2tpns.Server.Sessions
import L2tpns.Server.Setup
import Mathlib.Data.List.Infix

/-! # PAP and CHAP

`processpap` and `processchap` take the name and the password of a user and ask
RADIUS, unless the user belongs to a remote LNS. No plugin takes part.
-/

namespace L2tpns.Server

open Avp (Memory ntohs readBytes)

/-- A remote LNS of the configuration and the part of a name that stands for it. -/
structure ConfiguredLns extends RemoteLns where
  maskuser : List UInt8

/-- The first tunnel to the address of a remote LNS that is not being closed. -/
def lacConfTunnel (st : State) (lns : RemoteLns) : Option Nat :=
  (List.range (st.highestTunnelid + 1)).find? fun t =>
    let tunnel := st.tunnel t
    tunnel.isremotelns ≠ 0 ∧ tunnel.ip = lns.ip ∧ tunnel.port = lns.port ∧ tunnel.state ≠ .die

/-- Take the tunnel over for this remote LNS if it was another's; 0 for a new one. -/
def lacClaimTunnel (st : State) (lns : RemoteLns) : State × Nat :=
  match lacConfTunnel st lns with
  | none => (st, 0)
  | some t =>
      let tunnel := st.tunnel t
      if tunnel.isremotelns = lns.index then (st, t)
      else if tunnel.state = .opened ∨ tunnel.state = .opening then
        (st.setTunnel t fun tunnel => { tunnel with isremotelns := lns.index }, t)
      else (st, 0)

/-- Forward a session to the first remote LNS whose part occurs in the name. -/
def lacConfForwardtoremotelns (st : State) (quitting : Bool) (remotes : List ConfiguredLns)
    (s : Nat) (puser : List UInt8) : State × Bool :=
  match remotes.find? fun lns => decide (lns.maskuser <:+: puser) with
  | none => (st, false)
  | some lns =>
      let (st, t) := lacClaimTunnel st lns.toRemoteLns
      lacCreateTunnelsession st quitting t s lns.toRemoteLns puser

/-- The check before a login, unless forwarding is disabled. -/
def forwardLogin (st : State) (quitting : Bool) (remotes : List ConfiguredLns) (s : Nat)
    (puser : List UInt8) : State × Bool :=
  if st.config.disableLacFunc then (st, false)
  else lacConfForwardtoremotelns st quitting remotes s puser

/-- `MAXUSER`, also the room for a password. -/
def maxUser : Nat := 128

/-- Bytes as a string, up to a terminator. -/
def cString (bytes : List UInt8) : List UInt8 := bytes.takeWhile (· ≠ 0)

/-- The name and the password in a PAP request; both end up in buffers of 128 bytes. -/
def papLogin (memory : Memory) : List UInt8 × List UInt8 :=
  let userLength := (memory 4).toNat
  let passLength := (memory (5 + userLength)).toNat
  if userLength ≠ 0 ∧ userLength < maxUser then
    (cString (readBytes memory 5 userLength),
      if passLength ≠ 0 ∧ passLength < maxUser then
        cString (readBytes memory (6 + userLength) passLength)
      else [])
  else ([], [])

/-- Ask RADIUS. A link that is not the first of its bundle is authenticated only. -/
def sendLogin (st : State) (s r : Nat) : State :=
  if (st.session s).mrru ≠ 0 ∧ ¬ firstSessionInBundle st s then radiussend st r .justauth
  else radiussend st r .auth

/-- Answer a PAP request right away: the session has an address, or RADIUS no slot. -/
def papRespond (st : State) (s : Nat) (memory : Memory) : State :=
  if (st.session s).ip ≠ 0 then
    st.emit (.ppp s pppPap ([2, memory 1] ++ bytes16 5 ++ [0]))
  else
    sessionshutdown (st.emit (.ppp s pppPap ([3, memory 1] ++ bytes16 5 ++ [0]))) s
      "No free RADIUS sessions." 4 0 (some .serviceUnavailable)

/-- What a login comes to: the processing ends, or name and password are passed on to
RADIUS from a slot. -/
abbrev Login := Except State (State × Nat)

/-- Pass a login on to RADIUS. -/
def Login.send (s : Nat) : Login → State
  | .error ended => ended
  | .ok (st, r) => sendLogin st s r

/-- Authenticate the user of a PAP request. -/
def papAuthenticate (st : State) (s : Nat) (memory : Memory) : Login :=
  if (st.session s).ip ≠ 0 then .error (papRespond st s memory)
  else
    let (allocated, r) := radiusnew st s
    if r = 0 then .error (papRespond allocated s memory)
    else
      let (user, pass) := papLogin memory
      let named := allocated.setSession s fun session => { session with user := user }
      .ok (named.setRadius r fun slot => { slot with pass := pass, id := (memory 1).toNat }, r)

/-- The login in a PAP packet of `l` bytes. -/
def papRequest (st : State) (quitting : Bool) (remotes : List ConfiguredLns) (s : Nat)
    (memory : Memory) (l : Nat) : Login :=
  let close reason := .error (sessionshutdown st s reason 3 0 (some .userError))
  if l < 4 then close "Short PAP packet."
  else if ntohs memory 2 > l then close "PAP length mismatch."
  else if memory 0 ≠ 1 then close "Unexpected PAP code."
  else if (st.session s).ppp.phase ≠ .authenticate then .error st
  else
    let (checked, forwarded) := forwardLogin st quitting remotes s (papLogin memory).1
    if forwarded then .error checked else papAuthenticate checked s memory

/-- Process a PAP packet of `l` bytes. -/
def processpap (st : State) (quitting : Bool) (remotes : List ConfiguredLns) (s : Nat)
    (memory : Memory) (l : Nat) : State :=
  (papRequest st quitting remotes s memory l).send s

/-- The name in a CHAP response of `l` bytes. -/
def chapUser (memory : Memory) (l : Nat) : List UInt8 := cString (readBytes memory 21 (l - 21))

/-- A CHAP response that was not asked for. Some modems persist in using CHAP even after
they have acknowledged PAP. -/
def chapUnexpected (st : State) (s : Nat) : State :=
  if (st.sessLocal s).lcpAuthtype = authPap ∧ st.config.radiusAuthtypes &&& authChap ≠ 0 then
    sendchap (st.setLocal s fun own => { own with lcpAuthtype := authChap }) s
  else st

/-- Pass the name and the answer to the challenge on. -/
def chapAuthenticate (st : State) (s r : Nat) (memory : Memory) (l : Nat) : Login :=
  let named := st.setSession s fun session => { session with user := chapUser memory l }
  .ok (named.setRadius r fun slot =>
    { slot with pass := readBytes memory 5 16, chap := true }, r)

/-- The login in a CHAP packet of `l` bytes. -/
def chapResponse (st : State) (quitting : Bool) (remotes : List ConfiguredLns) (s : Nat)
    (memory : Memory) (l : Nat) : Login :=
  let close reason := .error (sessionshutdown st s reason 3 0 (some .userError))
  let hl := ntohs memory 2
  let r := (st.sessLocal s).radius
  if l < 4 then close "Short CHAP packet."
  else if hl > l then close "CHAP length mismatch."
  else if memory 0 ≠ 2 then close "CHAP length mismatch."
  else if (st.session s).ppp.phase ≠ .authenticate then .error st
  else if r = 0 then .error (chapUnexpected st s)
  else if (memory 1).toNat ≠ (st.radius r).id then close "Unexpected CHAP response ID."
  else if hl < 5 ∨ memory 4 ≠ 16 then close "Bad CHAP response length."
  else if hl - 5 < 16 ∨ maxUser ≤ hl - 21 then close "CHAP username too long."
  else
    let (checked, forwarded) := forwardLogin st quitting remotes s (chapUser memory hl)
    if forwarded then .error checked else chapAuthenticate checked s r memory hl

/-- Process a CHAP packet of `l` bytes. -/
def processchap (st : State) (quitting : Bool) (remotes : List ConfiguredLns) (s : Nat)
    (memory : Memory) (l : Nat) : State :=
  (chapResponse st quitting remotes s memory l).send s

end L2tpns.Server
