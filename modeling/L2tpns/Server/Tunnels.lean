import L2tpns.Server.Shutdown

/-! # Closing a tunnel

`tunnelkill` kills the sessions of a tunnel and frees it. `tunnelshutdown` shuts them
down and tells the peer, or kills the tunnel when it was never set up. The queue of
control messages is not part of the tables here.
-/

namespace L2tpns.Server

/-- The first free tunnel from `t` on, among `count`. -/
def findTunnel (st : State) (t : Nat) : Nat → Option Nat
  | 0 => none
  | count + 1 =>
      if (st.tunnel t).state = .free ∧ t ≠ tunnelIdPppoe then some t
      else findTunnel st (t + 1) count

/-- Look for a free tunnel; 0 if there is none. -/
def newTunnel (st : State) : State × Nat :=
  match findTunnel st 1 (maxTunnel - 1) with
  | some t => ({ st with highestTunnelid := max st.highestTunnelid t }, t)
  | none => (st, 0)

/-- Clear the record of a tunnel. -/
def tunnelclear (st : State) (t : Nat) : State :=
  if t = 0 then st else st.setTunnel t fun _ => .zero

/-- Kill the sessions of tunnel `t` from `s` on, among `count`. -/
def killSessions (st : State) (t : Nat) (reason : Option String) (s : Nat) : Nat → State
  | 0 => st
  | count + 1 =>
      let killed :=
        if (st.session s).tunnel = t then sessionkill st s reason (some .adminReset) else st
      killSessions killed t reason (s + 1) count

/-- Kill a tunnel now. The peer of a dead tunnel is not told of its sessions. -/
def tunnelkill (st : State) (t : Nat) (reason : String) : State :=
  let told := if reason = "Timeout on control message" then none else some reason
  let dying := st.setTunnel t fun tunnel => { tunnel with state := .die }
  (tunnelclear (killSessions dying t told 1 dying.highestSessionid) t).emit (.clusterTunnel t)

/-- Shut the sessions of tunnel `t` down from `s` on, among `count`. -/
def shutSessions (st : State) (t : Nat) (reason : String) (s : Nat) : Nat → State
  | 0 => st
  | count + 1 =>
      let shut :=
        if (st.session s).tunnel = t then
          sessionshutdown st s reason 0 0 (some .adminReset)
        else st
      shutSessions shut t reason (s + 1) count

/-- Shut a tunnel down cleanly, or kill it if it was never set up. -/
def tunnelshutdown (st : State) (t : Nat) (reason : String) (result : Nat) : State :=
  if (st.tunnel t).last = 0 ∨ (st.tunnel t).far = 0 ∨ (st.tunnel t).state = .free then
    tunnelkill st t reason
  else
    let dying := (shutSessions st t reason 1 st.highestSessionid).setTunnel t fun tunnel =>
      { tunnel with state := .die, die := (st.time + 700) % 2 ^ 32 }
    let told := dying.emit (.clusterTunnel t)
    if result = 0 then told else told.emit (.control t 0 4)

end L2tpns.Server
