import Mathlib.Algebra.GroupWithZero.Nat
import Mathlib.Data.Prod.Lex
import Mathlib.Logic.Function.Basic

/-! # BGP peers

A peer is a state machine over a TCP connection with one message that is being
sent and a buffer of what was received. What the system calls return is given from
outside: a write sends some of the bytes, would block, or fails.
-/

namespace L2tpns.Bgp

def bgpMaxPacketSize : Nat := 4096

/-- `sizeof(struct bgp_header)`: the marker, the length and the type. -/
def bgpHeaderSize : Nat := 19

def bgpStateTime : Nat := 60
def bgpMaxRetry : Nat := 42
def bgpRetryBackoff : Nat := 60
def bgpVersion : Nat := 4

/-- `BGP_DATA_OPEN_SIZE`: an OPEN without its optional parameters. -/
def bgpDataOpenSize : Nat := 10

inductive BgpState where
  | disabled
  | idle
  | connect
  | active
  | openSent
  | openConfirm
  | established
deriving DecidableEq, Repr

/-- How a peer handles advertisements of IPv6 routes. -/
inductive MpHandling where
  | handleIpv6Routes
  | doesntHandleIpv6Routes
  | handlingUnknown
deriving DecidableEq, Repr

/-- Changes that the command line asks for. -/
inductive CliFlag where
  | none
  | suspend
  | enable
  | restart
deriving DecidableEq, Repr

/-- A destination: the length of the prefix and the address as a number. -/
@[ext]
structure IpPrefix where
  len : Nat
  address : Nat
deriving DecidableEq, Repr

/-- `memcmp` compares the length first. -/
def IpPrefix.key (dest : IpPrefix) : Nat ×ₗ Nat := toLex (dest.len, dest.address)

theorem IpPrefix.key_injective : Function.Injective IpPrefix.key := by
  intro first second same
  have pair := toLex.injective same
  exact IpPrefix.ext (congrArg Prod.fst pair) (congrArg Prod.snd pair)

instance : LinearOrder IpPrefix := LinearOrder.lift' IpPrefix.key IpPrefix.key_injective

/-- `BGP_IP_PREFIX_SIZE` -/
def IpPrefix.size (dest : IpPrefix) : Nat :=
  1 + dest.len / 8 + if dest.len % 8 = 0 then 0 else 1

inductive Message where
  | open (as hold identifier : Nat) (multiprotocol : Bool)
  | keepalive
  | notification (code subcode : Nat)
  | update (withdrawn : List IpPrefix) (add : Option IpPrefix)
  | update6 (withdrawn : List IpPrefix) (add : Option IpPrefix)
deriving DecidableEq, Repr

/-- The message that is being sent; nothing is pending if `len` is 0. -/
structure Outbuf where
  packet : Message
  len : Nat
  done : Nat

/-- The memory of the input buffer, and the number of bytes that were received. -/
structure Inbuf where
  bytes : Nat → UInt8
  done : Nat

structure Peer where
  name : String
  sourceAddr : Nat
  as : Nat
  state : BgpState
  /-- The state once the output buffer is cleared. -/
  nextState : BgpState
  stateTime : Nat
  keepaliveTime : Nat
  retryTime : Nat
  retryCount : Nat
  initKeepalive : Nat
  initHold : Nat
  keepalive : Nat
  hold : Nat
  expireTime : Nat
  routing : Bool
  updateRoutes : Bool
  /-- The routes that the peer knows. -/
  routes : List IpPrefix
  outbuf : Outbuf
  inbuf : Inbuf
  cliFlag : CliFlag
  pathAttrLen : Nat
  pathAttrLenWithoutNexthop : Nat
  mpHandling : MpHandling
  updateRoutes6 : Bool
  routes6 : List IpPrefix

/-- What the functions read besides the peer. -/
structure Server where
  timeNow : Nat
  ourAs : Nat
  myAddress : Nat
  /-- The first byte of `ipv6_prefix` is not zero. -/
  hasIpv6Prefix : Bool

/-- What `write` returns; a call that is interrupted is repeated. -/
inductive WriteResult where
  | wrote (count : Nat)
  | again
  | failed
deriving DecidableEq, Repr

/-- Clear counters, timers, routes and buffers and move to the next state. -/
def bgpClear (server : Server) (peer : Peer) : Peer :=
  let cleared :=
    { peer with
      keepaliveTime := 0
      expireTime := 0
      keepalive := peer.initKeepalive
      hold := peer.initHold
      routes := []
      routes6 := []
      outbuf := { peer.outbuf with len := 0, done := 0 }
      inbuf :=
        ⟨Function.update (Function.update peer.inbuf.bytes 16 0) 17 0, 0⟩
      cliFlag := .none }
  if peer.state = peer.nextState then cleared
  else { cleared with state := peer.nextState, stateTime := server.timeNow }

/-- Drop the connection and set the state to Disabled. -/
def bgpHalt (server : Server) (peer : Peer) : Peer :=
  bgpClear server { peer with nextState := .disabled }

/-- Drop the connection and retry later, or give up. -/
def bgpSetRetry (server : Server) (peer : Peer) : Peer :=
  let counted := { peer with retryCount := peer.retryCount + 1 }
  if peer.retryCount < bgpMaxRetry then
    bgpClear server
      { counted with
        retryTime := server.timeNow + bgpRetryBackoff * counted.retryCount
        nextState := .idle }
  else bgpHalt server counted

/-- Write what is pending. The flag says whether the connection is still there. -/
def bgpWrite (server : Server) (peer : Peer) : WriteResult → Peer × Bool
  | .again => (peer, true)
  | .failed => (bgpSetRetry server peer, false)
  | .wrote count =>
      if count < peer.outbuf.len then
        ({ peer with outbuf := { peer.outbuf with done := peer.outbuf.done + count } }, true)
      else
        let emptied := { peer with outbuf := { peer.outbuf with len := 0, done := 0 } }
        let kept :=
          if peer.state = .established then
            { emptied with keepaliveTime := server.timeNow + peer.keepalive }
          else emptied
        if peer.state = peer.nextState then (kept, true)
        else if peer.nextState = .disabled ∨ peer.nextState = .idle then
          (bgpClear server kept, false)
        else ({ kept with state := peer.nextState, stateTime := server.timeNow }, true)

/-- The capability is advertised unless the peer is known not to support it. -/
def advertisesMultiprotocol (server : Server) (peer : Peer) : Bool :=
  server.hasIpv6Prefix &&
    (peer.mpHandling = .handlingUnknown || peer.mpHandling = .handleIpv6Routes)

def bgpSendOpen (server : Server) (peer : Peer) (result : WriteResult) : Peer × Bool :=
  let multiprotocol := advertisesMultiprotocol server peer
  let optLen := if multiprotocol then 8 else 0
  let identifier := if peer.sourceAddr = 0 then server.myAddress else peer.sourceAddr
  let message := Message.open server.ourAs peer.hold identifier multiprotocol
  bgpWrite server
    { peer with
      outbuf := ⟨message, bgpHeaderSize + bgpDataOpenSize + optLen, 0⟩
      nextState := .openSent } result

def bgpSendKeepalive (server : Server) (peer : Peer) (result : WriteResult) : Peer × Bool :=
  bgpWrite server
    { peer with
      outbuf := ⟨.keepalive, bgpHeaderSize, 0⟩
      nextState := if peer.state = .openSent then .openConfirm else peer.state } result

/-- A notification is the last message; pending input is ignored. -/
def bgpSendNotification (server : Server) (peer : Peer) (code subcode : Nat)
    (result : WriteResult) : Peer × Bool :=
  bgpWrite server
    { peer with
      outbuf := ⟨.notification code subcode, bgpHeaderSize + 2, 0⟩
      nextState := if code = 6 then .disabled else .idle
      inbuf :=
        ⟨Function.update (Function.update peer.inbuf.bytes 16 0) 17 0, 0⟩ } result

/-- How an attempt to connect goes. -/
inductive ConnectResult where
  | noService
  | noSocket
  | notBound
  | failed
  | inProgress
  | connected (result : WriteResult)
deriving DecidableEq, Repr

/-- Attempt to connect to a peer. -/
def bgpConnect (server : Server) (peer : Peer) : ConnectResult → Peer
  | .noService => peer
  | .noSocket => { peer with state := .disabled, nextState := .disabled }
  | .notBound => bgpSetRetry server peer
  | .failed => bgpSetRetry server peer
  | .inProgress => { peer with state := .connect, stateTime := server.timeNow }
  | .connected result =>
      (bgpSendOpen server
        { peer with
          state := .active
          stateTime := server.timeNow
          retryTime := 0
          retryCount := 0 } result).1

/-- Drop the connection and connect again. -/
def bgpRestart (server : Server) (peer : Peer) (result : ConnectResult) : Peer :=
  let cleared := bgpClear server { peer with nextState := .idle }
  bgpConnect server { cleared with retryTime := server.timeNow, retryCount := 0 } result

/-- Complete a connection in progress: `none` if it failed. -/
def bgpHandleConnect (server : Server) (peer : Peer) : Option WriteResult → Peer × Bool
  | none => (bgpSetRetry server peer, false)
  | some result =>
      bgpSendOpen server { peer with state := .active, stateTime := server.timeNow } result

end L2tpns.Bgp
