import L2tpns.Bgp.Process
import L2tpns.Foundation.Frames

/-! # The two streams of a BGP connection

A connection is a stream of bytes in each direction. What a peer sends is a row of messages, of
which a read gets some bytes, and a write takes some bytes of the message that is pending. Beside
the peer a connection keeps the messages that were queued and processed, the bytes that were
taken, and whether every access so far was inside of a buffer.
-/

namespace L2tpns.Bgp

open Foundation

/-- The bytes that were received and not processed yet. -/
def Inbuf.received (inbuf : Inbuf) : List UInt8 := (List.range inbuf.done).map inbuf.bytes

/-- The header of a message tells its length. -/
def messageFormat : FrameFormat UInt8 where
  header := bgpHeaderSize
  positive := by decide
  length bytes := Inbuf.short (fun i => bytes.getD i 0) 16
  header_tells front rest header := by
    have inside : 19 ≤ front.length := header
    simp only [Inbuf.short, List.getD_eq_getElem?_getD]
    rw [List.getElem?_append_left (by omega), List.getElem?_append_left (by omega)]

/-- A message of a size that fits, and a NOTIFICATION with both codes or none. -/
structure WellFormed (message : List UInt8) : Prop where
  frame : messageFormat.IsFrame message
  most : message.length ≤ bgpMaxPacketSize
  codes : (message.getD 18 0).toNat = bgpMsgNotification → message.length ≠ bgpHeaderSize + 1

def Peer.Connected (peer : Peer) : Prop := peer.state ≠ .idle ∧ peer.state ≠ .disabled

/-- The connection is not about to be closed. -/
def Peer.Listening (peer : Peer) : Prop := peer.nextState ≠ .idle ∧ peer.nextState ≠ .disabled

/-- A connection to a peer. `packet` is the message in the output buffer, and `unread` what the
peer has sent and no read has got. -/
structure Line where
  server : Server
  peer : Peer
  packet : List UInt8
  queued : List (List UInt8)
  sent : List UInt8
  unread : List UInt8
  processed : List (List UInt8)
  inside : Bool

/-- What is still to be taken of the messages that were queued. -/
def Line.pending (line : Line) : List UInt8 :=
  if line.peer.outbuf.len = 0 then [] else line.packet

/-- What may write a message. -/
inductive Action where
  | write
  | handle (stack : Nat → UInt8)
  | update (routes : List IpPrefix) (allocated : Bool)
  | update6 (routes6 : List IpPrefix) (allocated : Bool)
  | timers
  | stop

namespace Action

/-- When `bgp_process` does it, and the timers have something to do. -/
def Enabled (server : Server) (peer : Peer) : Action → Prop
  | .write => peer.outbuf.len ≠ 0
  | .handle _ => peer.HasInput
  | .update routes _ => peer.updateRoutes ∧ peer.outbuf.len = 0 ∧ ∀ dest ∈ routes, dest.len ≤ 32
  | .update6 routes6 _ =>
      peer.updateRoutes6 ∧ peer.outbuf.len = 0 ∧ ∀ dest ∈ routes6, dest.len ≤ 128
  | .timers => peer.state = .established ∧ (peer.expireTime < server.timeNow ∨
      peer.keepaliveTime < server.timeNow ∧ peer.outbuf.len = 0)
  | .stop => True

def run (server : Server) (peer : Peer) (result : WriteResult) : Action → Option Peer
  | .write => some (bgpWrite server peer result).1
  | .handle stack => bgpHandleInput server peer stack result
  | .update routes allocated => some (bgpSendUpdate server routes allocated peer result).1
  | .update6 routes6 allocated => some (bgpSendUpdate6 server routes6 allocated peer result).1
  | .timers => some (bgpProcessTimers server peer result .noService)
  | .stop => some (bgpStop server peer result)

/-- Whether a message is put into the buffer first. -/
def queues : Action → Bool
  | .write => false
  | _ => true

/-- The message that is processed: one that has arrived as a whole. -/
def message (peer : Peer) : Action → List (List UInt8)
  | .handle _ =>
      if peer.inbuf.len ≤ bgpMaxPacketSize ∧ peer.inbuf.len ≤ peer.inbuf.done then
        [peer.inbuf.received.take peer.inbuf.len]
      else []
  | _ => []

/-- A message is processed inside of its buffer, and a write is from the front of one. The
address is that of the packet plus as many packets as bytes were taken before. -/
def inside (peer prepared : Peer) (action : Action) : Bool :=
  (action matches .handle _ → peer.inbuf.done ≤ bgpMaxPacketSize) ∧
    (prepared.outbuf.len = 0 ∨
      prepared.outbuf.done = 0 ∧ prepared.outbuf.len ≤ bgpMaxPacketSize)

end Action

/-- A write takes some of the bytes that are left. -/
def Possible (outbuf : Outbuf) : WriteResult → Prop
  | .wrote count => 0 < count ∧ count ≤ outbuf.len - outbuf.done
  | _ => True

/-- What a write takes. -/
def taken (bytes : List UInt8) : WriteResult → List UInt8
  | .wrote count => bytes.take count
  | _ => []

/-- What the server changes of a peer. -/
inductive Change where
  | flagRoutes
  | flagRoutes6
  | enableRouting (enable : Bool)
  | cli (flag : CliFlag)
  | applyCli

def Change.apply (peer : Peer) : Change → Peer
  | .flagRoutes => Bgp.flagRoutes peer
  | .flagRoutes6 => Bgp.flagRoutes6 peer
  | .enableRouting enable => Bgp.flagRoutes { peer with routing := enable }
  | .cli flag => { peer with cliFlag := flag }
  | .applyCli => Bgp.applyCli peer

/-- `bytes` is what is at the address that is written from. -/
inductive Transfer where
  | act (action : Action) (result : WriteResult) (bytes : List UInt8)
  | read (chunk : List UInt8)
  | close
  | change (request : Change)
  | tick (timeNow : Nat)

/-- An action on a peer. A write that would block leaves what was queued. -/
def Acts (line : Line) (action : Action) (result : WriteResult) (bytes : List UInt8)
    (next : Line) : Prop :=
  line.peer.Connected ∧ action.Enabled line.server line.peer ∧ ∃ prepared after,
    action.run line.server line.peer .again = some prepared ∧
    action.run line.server line.peer result = some after ∧
    Possible prepared.outbuf result ∧
    (if action.queues then bytes.length = prepared.outbuf.len
      else prepared.outbuf.done = 0 → bytes = line.packet) ∧
    next = { line with
      peer := after
      packet := if action.queues then bytes else line.packet
      queued :=
        if action.queues ∧ prepared.outbuf.len ≠ 0 then line.queued ++ [bytes] else line.queued
      sent := line.sent ++ taken bytes result
      processed := line.processed ++ action.message line.peer
      inside := line.inside && action.inside line.peer prepared }

/-- A read of some bytes. -/
def Reads (line : Line) (chunk : List UInt8) (next : Line) : Prop :=
  line.peer.Connected ∧ chunk ≠ [] ∧ chunk.length ≤ bgpMaxPacketSize - line.peer.inbuf.done ∧
    ∃ rest, line.unread = chunk ++ rest ∧ next = { line with
      peer := (bgpRead line.server line.peer (.read chunk)).1
      unread := rest
      inside := line.inside && line.peer.inbuf.done = 0 }

def Transfer.Leads (line : Line) : Transfer → Line → Prop
  | .act action result bytes, next => Acts line action result bytes next
  | .read chunk, next => Reads line chunk next
  | .close, next => line.peer.Connected ∧
      next = { line with peer := (bgpRead line.server line.peer .closed).1 }
  | .change request, next => next = { line with peer := request.apply line.peer }
  | .tick timeNow, next =>
      next = { line with server := { line.server with timeNow := timeNow } }

/-- A peer at the start of a connection. -/
structure Peer.Fresh (peer : Peer) : Prop where
  state : peer.state = .active
  input : peer.inbuf.done = 0
  routes : peer.routes = []
  routes6 : peer.routes6 = []
  attrs : peer.pathAttrLen ≤ 35
  attrs6 : peer.pathAttrLenWithoutNexthop ≤ 28

/-- A connection with an OPEN that is queued, to a peer that sends `messages`. -/
def streamSystem (messages : List (List UInt8)) : TransitionSystem Line Transfer where
  initial line := ∃ fresh packet, fresh.Fresh ∧
    packet.length = (bgpSendOpen line.server fresh .again).1.outbuf.len ∧
    line = ⟨line.server, (bgpSendOpen line.server fresh .again).1, packet, [packet], [],
      messages.flatten, [], true⟩
  step line transfer next := transfer.Leads line next

/-- All that is left of what a write was called for is taken. -/
def WholeWrite (outbuf : Outbuf) (result : WriteResult) : Prop :=
  ∀ count, result = .wrote count → count = outbuf.len

/-- A read gets bytes for an empty buffer, a message is processed that has arrived as a whole, a
write takes a whole message, and no message takes the place of one that is pending. -/
def Sound (line : Line) : Transfer → Prop
  | .act action result _ =>
      (∀ prepared, action.run line.server line.peer .again = some prepared →
        WholeWrite prepared.outbuf result) ∧
      match action with
      | .handle _ => line.peer.inbuf.len ≤ line.peer.inbuf.done
      | .timers => line.peer.outbuf.len = 0
      | .stop => line.peer.outbuf.len = 0
      | _ => True
  | .read _ => line.peer.inbuf.done = 0
  | _ => True

/-- Besides, each read gets one message. -/
def WholeTransfers (messages : List (List UInt8)) (line : Line) (transfer : Transfer) : Prop :=
  Sound line transfer ∧ ∀ chunk, transfer = .read chunk → chunk ∈ messages

/-- The peer without the bytes in its input buffer. -/
def Peer.blank (peer : Peer) : Peer := { peer with inbuf := ⟨fun _ => 0, 0⟩ }

/-- The streams are those of the messages, and the peer is as if each read and write had
transferred one. -/
structure Unsegmented (messages : List (List UInt8)) (line : Line) : Prop where
  inside : line.inside
  processed : ∃ rest, line.processed ++ rest = messages ∧
    (line.peer.Listening → rest.flatten = line.peer.inbuf.received ++ line.unread)
  sent : ∃ rest, line.queued.flatten = line.sent ++ rest ∧
    (line.peer.Connected → rest = line.pending)
  whole : ∃ whole, (streamSystem messages).ReachableUnder (WholeTransfers messages) whole ∧
    whole.peer.blank = line.peer.blank ∧ whole.peer.inbuf.done = 0 ∧
    whole.processed = line.processed ∧ whole.queued = line.queued ∧ whole.sent = line.sent

end L2tpns.Bgp
