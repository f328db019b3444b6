import L2tpns.Bgp.Input
import L2tpns.Bgp.Routes
import L2tpns.Foundation.TransitionSystem

/-! # Rounds over the BGP peers

The server changes the routes and whether it advertises them, and goes over the peers in
rounds. What sends, reads, connects or drops a connection leaves what an established peer
knows as it is (`L2tpns.Bgp.Carries`).
-/

namespace L2tpns.Bgp

open Foundation

/-- The routes to advertise, and the peers. -/
structure Speaker where
  server : Server
  configured : Bool
  routes : List IpPrefix
  routes6 : List IpPrefix
  peer : Nat → Peer

/-- Whether an update of IPv6 routes is of use to a peer. -/
def Peer.takes6 (peer : Peer) : Bool :=
  peer.state = .established && peer.mpHandling = .handleIpv6Routes

/-- Flag a peer for update if it is established. -/
def flagRoutes (peer : Peer) : Peer :=
  if peer.state = .established then { peer with updateRoutes := true } else peer

def flagRoutes6 (peer : Peer) : Peer :=
  if peer.takes6 then { peer with updateRoutes6 := true } else peer

/-- Add a route; `allocated` says whether there is memory for it. -/
def bgpAddRoute (speaker : Speaker) (dest : IpPrefix) (allocated : Bool) : Speaker :=
  if isCovered dest speaker.routes then speaker
  else if allocated then
    { speaker with
      routes := bgpInsertRoute speaker.routes dest
      peer := fun i => flagRoutes (speaker.peer i) }
  else speaker

def bgpAddRoute6 (speaker : Speaker) (dest : IpPrefix) (allocated : Bool) : Speaker :=
  if isCovered dest speaker.routes6 then speaker
  else if allocated then
    { speaker with
      routes6 := bgpInsertRoute speaker.routes6 dest
      peer := fun i => flagRoutes6 (speaker.peer i) }
  else speaker

def bgpDelRoute (speaker : Speaker) (dest : IpPrefix) : Speaker :=
  match removeRoute dest speaker.routes with
  | none => speaker
  | some routes => { speaker with routes := routes, peer := fun i => flagRoutes (speaker.peer i) }

def bgpDelRoute6 (speaker : Speaker) (dest : IpPrefix) : Speaker :=
  match removeRoute dest speaker.routes6 with
  | none => speaker
  | some routes => { speaker with routes6 := routes, peer := fun i => flagRoutes6 (speaker.peer i) }

def bgpEnableRouting (speaker : Speaker) (enable : Bool) : Speaker :=
  { speaker with peer := fun i => flagRoutes { speaker.peer i with routing := enable } }

/-- What the command line has asked for. -/
def applyCli (peer : Peer) : Peer :=
  let changed :=
    match peer.cliFlag with
    | .suspend => if peer.routing then flagRoutes { peer with routing := false } else peer
    | .enable => if peer.routing then peer else flagRoutes { peer with routing := true }
    | _ => peer
  { changed with cliFlag := .none }

/-- The socket can be written to: a connection is completed, or what is pending is sent. -/
def processWritable (server : Server) (peer : Peer) (connected : Option WriteResult)
    (result : WriteResult) : Peer × Bool :=
  if peer.state = .connect then bgpHandleConnect server peer connected
  else if peer.outbuf.len ≠ 0 then bgpWrite server peer result
  else (peer, true)

/-- What `read` returns. -/
inductive ReadResult where
  | read (bytes : List UInt8)
  | again
  | closed

/-- Read into the input buffer. The address is that of the packet plus as many packets as
there are bytes already, so only the first bytes get into the buffer. -/
def bgpRead (server : Server) (peer : Peer) : ReadResult → Peer × Bool
  | .again => (peer, true)
  | .closed => (bgpSetRetry server peer, false)
  | .read received =>
      let bytes :=
        if peer.inbuf.done = 0 then
          fun i => if i < received.length then received.getD i 0 else peer.inbuf.bytes i
        else peer.inbuf.bytes
      ({ peer with inbuf := ⟨bytes, peer.inbuf.done + received.length⟩ }, true)

/-- Process pending updates, unless a message is pending. -/
def processUpdates (speaker : Speaker) (allocated : Bool) (peer : Peer) (result : WriteResult) :
    Peer × Bool :=
  if peer.updateRoutes ∧ peer.outbuf.len = 0 then
    bgpSendUpdate speaker.server speaker.routes allocated peer result
  else (peer, true)

def processUpdates6 (speaker : Speaker) (allocated : Bool) (peer : Peer) (result : WriteResult) :
    Peer × Bool :=
  if peer.updateRoutes6 ∧ peer.outbuf.len = 0 then
    bgpSendUpdate6 speaker.server speaker.routes6 allocated peer result
  else (peer, true)

def bgpProcessTimers (server : Server) (peer : Peer) (result : WriteResult)
    (connect : ConnectResult) : Peer :=
  if peer.state = .established then
    if peer.expireTime < server.timeNow then
      (bgpSendNotification server peer bgpErrHoldTimerExp 0 result).1
    else if peer.keepaliveTime < server.timeNow ∧ peer.outbuf.len = 0 then
      (bgpSendKeepalive server peer result).1
    else peer
  else if peer.state = .idle then
    if peer.retryTime < server.timeNow then bgpConnect server peer connect else peer
  else if peer.stateTime + bgpStateTime < server.timeNow then bgpRestart server peer connect
  else peer

/-- What the system calls return to a round over one peer. -/
structure Round where
  writable : Bool
  readable : Bool
  restarted : ConnectResult
  connected : Option WriteResult
  written : WriteResult
  read : ReadResult
  stack : Nat → Nat → UInt8
  answered : Nat → WriteResult
  allocated : Bool
  updated : WriteResult
  allocated6 : Bool
  updated6 : WriteResult
  timed : WriteResult
  connect : ConnectResult

/-- The end of a round over a peer, once its input was processed. -/
def finishRound (speaker : Speaker) (round : Round) (peer : Peer) : Peer :=
  let updated := processUpdates speaker round.allocated peer round.updated
  if updated.2 then
    let updated6 := processUpdates6 speaker round.allocated6 updated.1 round.updated6
    if updated6.2 then bgpProcessTimers speaker.server updated6.1 round.timed round.connect
    else updated6.1
  else updated.1

/-- The buffers are emptied and filled; the flag says whether the round goes on. -/
def processBuffers (speaker : Speaker) (round : Round) (peer : Peer) : Peer × Bool :=
  let written :=
    if round.writable then processWritable speaker.server peer round.connected round.written
    else (peer, true)
  if written.2 ∧ round.readable then bgpRead speaker.server written.1 round.read else written

/-- A round over one peer leads to `after`, if its loop over the input ends. -/
def ProcessPeer (speaker : Speaker) (round : Round) (peer after : Peer) : Prop :=
  if peer.name ≠ "" ∧ peer.cliFlag = .restart then
    after = bgpRestart speaker.server peer round.restarted
  else if peer.state = .disabled then after = peer
  else
    let buffered :=
      processBuffers speaker round (if peer.cliFlag = .none then peer else applyCli peer)
    if buffered.2 then
      ∃ handled, (inputLoop ⟨speaker.server, round.stack, round.answered⟩).Returns ⟨buffered.1, 0⟩
        (some handled) ∧ after = finishRound speaker round handled
    else after = buffered.1

/-- What is configured for a peer; times that are not given have defaults. -/
structure Neighbour where
  name : String
  as : Nat
  keepalive : Option Nat
  hold : Option Nat
  updateSource : Nat

/-- The timers and the attributes of a peer whose name is known. -/
def preparePeer (server : Server) (peer : Peer) (neighbour : Neighbour) (enable : Bool) : Peer :=
  let as := if 0 < neighbour.as then neighbour.as else server.ourAs
  let hold := max (neighbour.hold.getD 180) 3
  let keepalive := neighbour.keepalive.getD 60
  let cleared := bgpClear server
    { peer with
      sourceAddr := neighbour.updateSource
      as := as
      initHold := hold
      initKeepalive := if hold < keepalive * 3 then hold / 3 else keepalive
      nextState := .idle }
  let attrLen := if as = server.ourAs then 28 else 25
  { cleared with
    routing := enable
    pathAttrLen := attrLen + 7
    pathAttrLenWithoutNexthop := attrLen }

/-- Set a peer up and connect to it. -/
def bgpStart (server : Server) (peer : Peer) (neighbour : Neighbour) (enable resolved : Bool)
    (allocated : Bool) (connect : ConnectResult) : Peer :=
  if server.ourAs = 0 then peer
  else
    let halted := if peer.state = .disabled then peer else bgpHalt server peer
    let named := { halted with name := neighbour.name }
    if ¬ resolved then named
    else
      let prepared := preparePeer server named neighbour enable
      if allocated then
        bgpConnect server { prepared with mpHandling := .handlingUnknown } connect
      else prepared

/-- Terminate the connection. -/
def bgpStop (server : Server) (peer : Peer) (result : WriteResult) : Peer :=
  (bgpSendNotification server peer bgpErrCease 0 result).1

inductive Event where
  | addRoute (dest : IpPrefix) (allocated : Bool)
  | addRoute6 (dest : IpPrefix) (allocated : Bool)
  | delRoute (dest : IpPrefix)
  | delRoute6 (dest : IpPrefix)
  | enableRouting (enable : Bool)
  | start (i : Nat) (neighbour : Neighbour) (enable resolved allocated : Bool)
      (connect : ConnectResult)
  | stop (i : Nat) (result : WriteResult)
  | cli (i : Nat) (flag : CliFlag)
  | process (rounds : Nat → Round)
  | timers (rounds : Nat → Round)
  | tick (timeNow : Nat)

def Speaker.setPeer (speaker : Speaker) (i : Nat) (peer : Peer) : Speaker :=
  { speaker with peer := Function.update speaker.peer i peer }

/-- A round over the peers. -/
structure BgpProcess (speaker : Speaker) (rounds : Nat → Round) (next : Speaker) : Prop where
  server : next.server = speaker.server
  configured : next.configured = speaker.configured
  routes : next.routes = speaker.routes
  routes6 : next.routes6 = speaker.routes6
  peers : ∀ i, if speaker.configured ∧ i < 2 then
    ProcessPeer speaker (rounds i) (speaker.peer i) (next.peer i)
    else next.peer i = speaker.peer i

def bgpProcessPeersTimers (speaker : Speaker) (rounds : Nat → Round) : Speaker :=
  { speaker with peer := fun i =>
      if speaker.configured ∧ i < 2 ∧ (speaker.peer i).state ≠ .disabled then
        bgpProcessTimers speaker.server (speaker.peer i) (rounds i).timed (rounds i).connect
      else speaker.peer i }

/-- What an event makes of the speaker. -/
def Event.Leads (speaker : Speaker) : Event → Speaker → Prop
  | .addRoute dest allocated, next => next = bgpAddRoute speaker dest allocated
  | .addRoute6 dest allocated, next => next = bgpAddRoute6 speaker dest allocated
  | .delRoute dest, next => next = bgpDelRoute speaker dest
  | .delRoute6 dest, next => next = bgpDelRoute6 speaker dest
  | .enableRouting enable, next => next = bgpEnableRouting speaker enable
  | .start i neighbour enable resolved allocated connect, next =>
      next = { speaker.setPeer i (bgpStart speaker.server (speaker.peer i) neighbour enable
          resolved allocated connect) with
        configured := speaker.configured ||
          (speaker.server.ourAs ≠ 0 && resolved && allocated) }
  | .stop i result, next =>
      next = speaker.setPeer i (bgpStop speaker.server (speaker.peer i) result)
  | .cli i flag, next => next = speaker.setPeer i { speaker.peer i with cliFlag := flag }
  | .process rounds, next => BgpProcess speaker rounds next
  | .timers rounds, next => next = bgpProcessPeersTimers speaker rounds
  | .tick timeNow, next =>
      next = { speaker with server := { speaker.server with timeNow := timeNow } }

/-- A server from its start on: no routes, and all peers disabled. -/
def bgpSystem : TransitionSystem Speaker Event where
  initial speaker := speaker = ⟨speaker.server, false, [], [], fun _ => .zero⟩
  step speaker event next := event.Leads speaker next

/-- An established peer moves on only by losing its connection, and a peer gets established at
once. -/
structure Peer.Settled (peer : Peer) : Prop where
  arrived : peer.nextState = .established → peer.state = .established
  leaves : peer.state = .established →
    peer.nextState = .established ∨ peer.nextState = .disabled ∨ peer.nextState = .idle

/-- The connection is lost. -/
structure Peer.Dropped (peer : Peer) : Prop where
  state : peer.state ≠ .established
  nextState : peer.nextState ≠ .established

/-- What of an established peer decides whether it knows the routes. -/
structure Knowledge where
  routing : Bool
  updateRoutes : Bool
  routes : List IpPrefix
  updateRoutes6 : Bool
  routes6 : List IpPrefix
  handles6 : Bool

def Peer.knowledge (peer : Peer) : Knowledge :=
  ⟨peer.routing, peer.updateRoutes, peer.routes, peer.updateRoutes6, peer.routes6,
    peer.mpHandling = .handleIpv6Routes⟩

/-- A peer that is established afterwards was so before, and its knowledge was not touched. -/
structure Carries (peer after : Peer) : Prop where
  settled : peer.Settled → after.Settled
  kept : peer.Settled → after.state = .established →
    peer.state = .established ∧ after.knowledge = peer.knowledge

variable {server : Server} {peer after last : Peer} {result : WriteResult}

namespace Carries

theorem refl (peer : Peer) : Carries peer peer := ⟨id, fun _ state => ⟨state, rfl⟩⟩

theorem trans (first : Carries peer after) (second : Carries after last) : Carries peer last := by
  refine ⟨fun settled => second.settled (first.settled settled), fun settled state => ?_⟩
  obtain ⟨state', same'⟩ := second.kept (first.settled settled) state
  obtain ⟨state, same⟩ := first.kept settled state'
  exact ⟨state, same'.trans same⟩

/-- The state is as before, and the next state too, unless it is to stay or to be left for a
closed connection. -/
theorem of_same (state : after.state = peer.state)
    (nextState : after.nextState = peer.nextState ∨ after.nextState = peer.state ∨
      after.nextState = .disabled ∨ after.nextState = .idle)
    (knowledge : after.knowledge = peer.knowledge) : Carries peer after := by
  refine ⟨fun settled => ?_, fun _ established => ⟨state ▸ established, knowledge⟩⟩
  constructor
  · intro next
    rw [state]
    rcases nextState with same | stays | closes | closes
    · exact settled.arrived (same.symm.trans next)
    · exact stays.symm.trans next
    · exact nomatch closes.symm.trans next
    · exact nomatch closes.symm.trans next
  · intro established
    rcases nextState with same | stays | closes
    · rw [same]
      exact settled.leaves (state ▸ established)
    · exact .inl (stays.trans (state ▸ established))
    · exact .inr closes

theorem of_dropped (dropped : after.Dropped) : Carries peer after := by
  refine ⟨fun _ => ⟨fun next => absurd next dropped.nextState, fun established => ?_⟩,
    fun _ established => ?_⟩
  · exact absurd established dropped.state
  · exact absurd established dropped.state

theorem of_apart (before : peer.state ≠ .established) (state : after.state ≠ .established)
    (nextState : after.nextState = .established → peer.nextState = .established) :
    Carries peer after := by
  refine ⟨fun settled => ⟨fun next => ?_, fun established => ?_⟩, fun _ established => ?_⟩
  · exact absurd (settled.arrived (nextState next)) before
  · exact absurd established state
  · exact absurd established state

end Carries

theorem bgpClear_dropped (drops : peer.nextState ≠ .established) :
    (bgpClear server peer).Dropped := by
  rw [bgpClear]
  by_cases same : peer.state = peer.nextState
  · rw [if_pos same]
    exact ⟨same ▸ drops, drops⟩
  · rw [if_neg same]
    exact ⟨drops, drops⟩

theorem bgpHalt_dropped : (bgpHalt server peer).Dropped := bgpClear_dropped nofun

theorem bgpSetRetry_dropped : (bgpSetRetry server peer).Dropped := by
  rw [bgpSetRetry]
  split
  · exact bgpClear_dropped (by simp)
  · exact bgpHalt_dropped

theorem bgpWrite_carries (result : WriteResult) : Carries peer (bgpWrite server peer result).1 := by
  cases result with
  | again => exact .refl peer
  | failed => exact .of_dropped bgpSetRetry_dropped
  | wrote count =>
      rw [bgpWrite]
      by_cases part : count < peer.outbuf.len
      · rw [if_pos part]
        exact .of_same rfl (.inl rfl) rfl
      rw [if_neg part]
      by_cases stays : peer.state = peer.nextState
      · rw [if_pos stays]
        dsimp only
        split <;> exact .of_same rfl (.inl rfl) rfl
      rw [if_neg stays]
      by_cases drops : peer.nextState = .disabled ∨ peer.nextState = .idle
      · rw [if_pos drops]
        have dropped : peer.nextState ≠ .established := by
          intro established
          rw [established] at drops
          rcases drops with drops | drops <;> cases drops
        split <;> exact .of_dropped (bgpClear_dropped dropped)
      rw [if_neg drops]
      have moved : ∀ kept : Peer, kept.nextState = peer.nextState →
          Carries peer { kept with state := peer.nextState, stateTime := server.timeNow } := by
        intro kept same
        have apart : peer.Settled → peer.state ≠ .established := by
          intro settled established
          rcases settled.leaves established with next | closes
          · exact stays (established.trans next.symm)
          · exact drops closes
        have away : peer.Settled → peer.nextState ≠ .established := fun settled next =>
          apart settled (settled.arrived next)
        refine ⟨fun settled => ?_, fun settled next => absurd next (away settled)⟩
        have carried : Carries peer
            { kept with state := peer.nextState, stateTime := server.timeNow } :=
          .of_apart (apart settled) (away settled) same.symm.trans
        exact carried.settled settled
      split <;> exact moved _ rfl

theorem bgpSendNotification_carries (code subcode : Nat) :
    Carries peer (bgpSendNotification server peer code subcode result).1 := by
  refine Carries.trans ?_ (bgpWrite_carries result)
  refine .of_same rfl ?_ rfl
  dsimp only
  split
  · exact .inr (.inr (.inl rfl))
  · exact .inr (.inr (.inr rfl))

theorem bgpSendKeepalive_carries : Carries peer (bgpSendKeepalive server peer result).1 := by
  refine Carries.trans ?_ (bgpWrite_carries result)
  by_cases opens : peer.state = .openSent
  · have apart : peer.state ≠ .established := by
      rw [opens]
      exact nofun
    rw [if_pos opens]
    exact .of_apart apart apart nofun
  · rw [if_neg opens]
    exact .of_same rfl (.inr (.inl rfl)) rfl

theorem bgpSendOpen_carries (state : peer.state ≠ .established) :
    Carries peer (bgpSendOpen server peer result).1 := by
  refine Carries.trans ?_ (bgpWrite_carries result)
  exact .of_apart state state nofun

theorem bgpConnect_carries (state : peer.state ≠ .established) (connect : ConnectResult) :
    Carries peer (bgpConnect server peer connect) := by
  cases connect with
  | noService => exact .refl peer
  | noSocket => exact .of_apart state nofun nofun
  | notBound | failed => exact .of_dropped bgpSetRetry_dropped
  | inProgress => exact .of_apart state nofun id
  | connected result =>
      refine Carries.trans ?_ (bgpSendOpen_carries nofun)
      exact .of_apart state nofun id

theorem bgpRestart_carries (connect : ConnectResult) :
    Carries peer (bgpRestart server peer connect) := by
  have dropped := @bgpClear_dropped server { peer with nextState := .idle } nofun
  refine Carries.trans (.of_dropped ?_) (bgpConnect_carries ?_ connect)
  · exact ⟨dropped.state, dropped.nextState⟩
  · exact dropped.state

theorem bgpHandleConnect_carries (state : peer.state ≠ .established)
    (connected : Option WriteResult) : Carries peer (bgpHandleConnect server peer connected).1 := by
  cases connected with
  | none => exact .of_dropped bgpSetRetry_dropped
  | some result =>
      refine Carries.trans ?_ (bgpSendOpen_carries nofun)
      exact .of_apart state nofun id

theorem bgpProcessTimers_carries (result : WriteResult) (connect : ConnectResult) :
    Carries peer (bgpProcessTimers server peer result connect) := by
  rw [bgpProcessTimers]
  by_cases established : peer.state = .established
  · rw [if_pos established]
    split
    · exact bgpSendNotification_carries ..
    · split
      · exact bgpSendKeepalive_carries
      · exact .refl peer
  · rw [if_neg established]
    split_ifs
    · exact bgpConnect_carries established connect
    · exact .refl peer
    · exact bgpRestart_carries connect
    · exact .refl peer

theorem processWritable_carries (connected : Option WriteResult) :
    Carries peer (processWritable server peer connected result).1 := by
  rw [processWritable]
  split_ifs with connecting
  · refine bgpHandleConnect_carries ?_ connected
    rw [connecting]
    exact nofun
  · exact bgpWrite_carries result
  · exact .refl peer

theorem bgpRead_carries (read : ReadResult) : Carries peer (bgpRead server peer read).1 := by
  cases read with
  | again => exact .refl peer
  | closed => exact .of_dropped bgpSetRetry_dropped
  | read received => exact .of_same rfl (.inl rfl) rfl

theorem processBuffers_carries (speaker : Speaker) (round : Round) :
    Carries peer (processBuffers speaker round peer).1 := by
  have written : Carries peer (if round.writable then
      processWritable speaker.server peer round.connected round.written else (peer, true)).1 := by
    split
    · exact processWritable_carries _
    · exact .refl peer
  rw [processBuffers]
  generalize (if round.writable then processWritable speaker.server peer round.connected
    round.written else (peer, true)) = buffers at written ⊢
  split
  · exact written.trans (bgpRead_carries _)
  · exact written

theorem preparePeer_dropped (named : Peer) (neighbour : Neighbour) (enable : Bool) :
    (preparePeer server named neighbour enable).Dropped := by
  have idle : ∀ peer : Peer, peer.nextState = .idle → (bgpClear server peer).Dropped := by
    intro peer next
    refine bgpClear_dropped ?_
    rw [next]
    exact nofun
  rw [preparePeer]
  exact ⟨(idle _ rfl).state, (idle _ rfl).nextState⟩

theorem bgpStart_carries (neighbour : Neighbour) (enable resolved allocated : Bool)
    (connect : ConnectResult) :
    Carries peer (bgpStart server peer neighbour enable resolved allocated connect) := by
  rw [bgpStart]
  by_cases off : server.ourAs = 0
  · rw [if_pos off]
    exact .refl peer
  rw [if_neg off]
  have halts : Carries peer (if peer.state = .disabled then peer else bgpHalt server peer) := by
    split
    · exact .refl peer
    · exact .of_dropped bgpHalt_dropped
  generalize (if peer.state = .disabled then peer else bgpHalt server peer) = halted at halts ⊢
  by_cases known : resolved
  · rw [if_neg (not_not.mpr known)]
    dsimp only
    have dropped := @preparePeer_dropped server { halted with name := neighbour.name }
      neighbour enable
    split
    · refine Carries.trans (.of_dropped ?_) (bgpConnect_carries ?_ connect)
      · exact ⟨dropped.state, dropped.nextState⟩
      · exact dropped.state
    · exact .of_dropped dropped
  · rw [if_pos known]
    exact halts.trans (.of_same rfl (.inl rfl) rfl)

end L2tpns.Bgp
