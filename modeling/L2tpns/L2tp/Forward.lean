import L2tpns.L2tp.Header
import L2tpns.Ppp.Automaton

/-! # Forwarding of PPP frames

A session may be linked to another one that its frames are forwarded to: from an access
concentrator to a remote LNS, and back. A side is an L2TP tunnel or the PPPoE sessions. The
frames are not copied. A forwarder writes the new header into the receive buffer, in front of the
frame or over the header that it came with, and sends from there.

The counters and the times of the sessions are left out; nothing is decided on them.
-/

namespace L2tpns.L2tp

open Avp (Memory ntohs readBytes writeBytes)
open Server (bytes16 maxSession maxTunnel pppCcp pppChap pppIpcp pppIpv6cp pppLcp pppPap
  tunnelIdPppoe)

/-- What is read of a session, with the address of a PPPoE peer. -/
structure Session where
  tunnel : Nat
  far : Nat
  forwardtosession : Nat
  srcHwaddr : Vector UInt8 6

structure Tunnel where
  far : Nat
  ns : Nat
  nr : Nat
  ip : Nat
  isremotelns : Bool

/-- The tables and the configuration. The tunnel of the PPPoE sessions is open from the start on,
so it never becomes the tunnel to a remote LNS. -/
structure Links where
  session : Nat → Session
  tunnel : Nat → Tunnel
  clusterIamMaster : Bool
  ipv6Prefix : Bool
  pppoeHwaddr : Vector UInt8 6
  pppoe_local : (tunnel tunnelIdPppoe).isremotelns = false

/-- Bytes received at `start`, with room for a header in front. -/
structure Packet where
  memory : Memory
  start : Nat
  size : Nat
  room : 20 ≤ start
  size_lt : size < 2 ^ 16

/-- What is sent to a tunnel, or to a PPPoE peer with its Ethernet header. -/
inductive Message where
  | l2tp (bytes : List UInt8)
  | pppoe (bytes : List UInt8)
deriving DecidableEq, Repr

/-- What becomes of a packet: it is dropped, handled here, passed on to the master, or forwarded. -/
inductive Fate where
  | dropped
  | handled
  | toMaster
  | sent (message : Message)
deriving DecidableEq, Repr

/-- Protocol and information of a PPP frame. -/
structure Frame where
  proto : Nat
  information : List UInt8
deriving DecidableEq, Repr

/-- HDLC address and control bytes. -/
def hdlcHeader : List UInt8 := [0xFF, 0x03]

/-- Discard an HDLC header, if something follows it. -/
def dropHdlc (data : List UInt8) : List UInt8 :=
  if 2 < data.length ∧ data.take 2 = hdlcHeader then data.drop 2 else data

/-- The protocol may be compressed to one byte, which is odd. -/
def readProto : List UInt8 → Option Frame
  | first :: second :: rest =>
      if first &&& 1 ≠ 0 then some ⟨first.toNat, second :: rest⟩
      else some ⟨first.toNat * 2 ^ 8 + second.toNat, rest⟩
  | _ => none

/-- Read a PPP frame. None if it is too short. -/
def readFrame (data : List UInt8) : Option Frame := readProto (dropHdlc data)

/-- Write a number of 16 bits in network order. -/
def putWord (memory : Memory) (p value : Nat) : Memory := writeBytes memory p (bytes16 value)

/-- Send a PPPoE packet of `l` bytes at `pack`, with the length of its frame. -/
def pppoeSessSend (links : Links) (memory : Memory) (pack l t : Nat) : Fate :=
  let s := ntohs memory (pack + 16)
  if t ≠ tunnelIdPppoe then .dropped
  else if (links.session s).tunnel ≠ t then .dropped
  else if l < 14 + 6 + 3 then .dropped
  else .sent (.pppoe (readBytes (putWord memory (pack + 18) (l - (14 + 6))) pack l))

/-- Send `l` bytes at `buf` to tunnel `t`, with what is expected next in its sequence. -/
def tunnelsend (links : Links) (memory : Memory) (buf l t : Nat) : Fate :=
  let flags := memory buf
  if t = 0 then .dropped
  else if t = tunnelIdPppoe then pppoeSessSend links memory buf l t
  else if (links.tunnel t).ip = 0 then .dropped
  else
    let sequenced := if hasSequence flags then
        putWord memory (buf + if hasLength flags then 10 else 8) (links.tunnel t).nr
      else memory
    .sent (.l2tp (readBytes sequenced buf l))

/-- Write the tunnel, the session and the sequence numbers of the other side over those of the
header at `buf`. -/
def rewriteHeader (links : Links) (memory : Memory) (buf t s : Nat) : Memory :=
  let ids := idsAt memory buf
  let addressed := putWord (putWord memory ids (links.tunnel t).far) (ids + 2) (links.session s).far
  if hasSequence (memory buf) then
    putWord (putWord addressed (ids + 4) (links.tunnel t).ns) (ids + 6) (links.tunnel t).nr
  else addressed

/-- The headers of Ethernet and PPPoE, without a length. -/
def setupHeader (src dst : Vector UInt8 6) (code : UInt8) (sid hProto : Nat) : List UInt8 :=
  dst.toList ++ src.toList ++ bytes16 hProto ++ [0x11, code] ++ bytes16 sid ++ [0, 0]

/-- `ETH_P_PPP_SES`. -/
def ethPPppSes : Nat := 0x8864

/-- `CODE_SESS`. -/
def codeSess : UInt8 := 0x00

/-- The size of what is after the header of the L2TP packet of `size` bytes, as an `uint16_t`. -/
def afterHeader (flags : UInt8) (size : Nat) : Nat :=
  let header := 2 + (if hasLength flags then 2 else 0) + 4 + if hasSequence flags then 4 else 0
  (size + 2 ^ 16 - header) % 2 ^ 16

/-- Send what is after the header of an L2TP packet to the peer of a PPPoE session. -/
def pppoeForwardtoSessionPppoe (links : Links) (memory : Memory) (pack size sess : Nat) : Fate :=
  let s := (links.session sess).forwardtosession
  let t := (links.session s).tunnel
  let lpppoe := afterHeader (memory pack) size
  let p := sequenceEnd memory pack
  let rewritten := rewriteHeader links memory pack t s
  let hdlc := decide (2 < lpppoe ∧ readBytes rewritten p 2 = hdlcHeader)
  let frame := if hdlc then p + 2 else p
  let lframe := if hdlc then lpppoe - 2 else lpppoe
  let start := frame - (14 + 6)
  let header := setupHeader links.pppoeHwaddr (links.session s).srcHwaddr codeSess s ethPPppSes
  tunnelsend links (writeBytes rewritten start header) start ((lframe + (14 + 6)) % 2 ^ 16) t

/-- A slave leaves what the state of a session depends on to the master. -/
def isForMaster (links : Links) (proto : Nat) : Bool :=
  proto = pppIpcp || proto = pppLcp || proto = pppPap || proto = pppChap ||
    proto = pppIpv6cp && links.ipv6Prefix || proto = pppCcp

/-- Forward a data message of session `sess`. -/
def lacSessionForward (links : Links) (memory : Memory) (buf len sess proto : Nat) : Fate :=
  let s := (links.session sess).forwardtosession
  let t := (links.session s).tunnel
  if (links.session s).forwardtosession ≠ sess then .dropped
  else if maxTunnel ≤ t then .dropped
  else if !(links.tunnel t).isremotelns && !(links.tunnel (links.session sess).tunnel).isremotelns
    then .dropped
  else if !links.clusterIamMaster && isForMaster links proto then .toMaster
  else if t = tunnelIdPppoe then pppoeForwardtoSessionPppoe links memory buf len sess
  else tunnelsend links (rewriteHeader links memory buf t s) buf (len % 2 ^ 16) t

/-- `processudp`, as far as data messages to forward are concerned. -/
def processudp (links : Links) (packet : Packet) : Fate :=
  match readHeader packet.memory packet.start packet.size with
  | none => .dropped
  | some header =>
      if isControl (packet.memory packet.start) then .handled
      else
        match readFrame (readBytes packet.memory header.p header.l) with
        | none => .dropped
        | some frame =>
            if (links.session header.s).forwardtosession ≠ 0 then
              lacSessionForward links packet.memory packet.start packet.size header.s frame.proto
            else .handled

/-- Send the frame of a PPPoE packet to a remote LNS, behind an L2TP header without options. -/
def pppoeForwardtoSessionRmlns (links : Links) (memory : Memory) (pack sess : Nat) : Fate :=
  let lppp := ntohs memory (pack + 18)
  let pl2tp := pack + (14 + 6) - 6
  let s := (links.session sess).forwardtosession
  let t := (links.session s).tunnel
  if (links.session s).forwardtosession ≠ sess then .dropped
  else if maxTunnel ≤ t then .dropped
  else if !(links.tunnel t).isremotelns then .dropped
  else
    let header := putWord (putWord (putWord memory pl2tp 0x0002) (pl2tp + 2) (links.tunnel t).far)
      (pl2tp + 4) (links.session s).far
    tunnelsend links header pl2tp ((lppp + 6) % 2 ^ 16) t

/-- `process_pppoe_sess`, as far as frames to forward are concerned. -/
def processPppoeSess (links : Links) (packet : Packet) : Fate :=
  let memory := packet.memory
  let pack := packet.start
  let version := memory (pack + 14)
  let sid := ntohs memory (pack + 16)
  let lppp := ntohs memory (pack + 18)
  if maxSession ≤ sid then .dropped
  else if (links.session sid).tunnel ≠ tunnelIdPppoe then
    if links.clusterIamMaster then .dropped else .toMaster
  else if version / 16 ≠ 1 then .dropped
  else if version % 16 ≠ 1 then .dropped
  else
    match readFrame (readBytes memory (pack + (14 + 6)) lppp) with
    | none => .dropped
    | some _ =>
        if (links.session sid).forwardtosession ≠ 0 then
          pppoeForwardtoSessionRmlns links memory pack sid
        else .handled

/-- A packet from a tunnel, or from the PPPoE sessions. -/
inductive Input where
  | l2tp (packet : Packet)
  | pppoe (packet : Packet)

def process (links : Links) : Input → Fate
  | .l2tp packet => processudp links packet
  | .pppoe packet => processPppoeSess links packet

/-- A packet of its own in memory. -/
def contents (packet : List UInt8) : Memory := fun k => packet.getD k 0

/-- The frame of an L2TP data message, if it is one, in the bytes of the message. -/
def l2tpFrame (packet : List UInt8) : Option Frame :=
  let memory := contents packet
  let l := messageLength memory 0 packet.length
  let p := payloadAt memory 0
  if packet.length < 6 then none
  else if isControl (memory 0) then none
  else if memory 1 &&& 0x0F ≠ 2 then none
  else if packet.length < l then none
  else if l < p then none
  else readFrame (readBytes memory p (l - p))

/-- The frame of a PPPoE session packet in the bytes of the packet. -/
def pppoeFrame (packet : List UInt8) : Option Frame :=
  let memory := contents packet
  let lppp := ntohs memory 18
  if packet.length < 14 + 6 then none
  else if memory 14 / 16 ≠ 1 then none
  else if memory 14 % 16 ≠ 1 then none
  else if packet.length < 14 + 6 + lppp then none
  else readFrame (readBytes memory (14 + 6) lppp)

def Message.frame : Message → Option Frame
  | .l2tp bytes => l2tpFrame bytes
  | .pppoe bytes => pppoeFrame bytes

@[simp] theorem Message.frame_l2tp (bytes : List UInt8) :
    (Message.l2tp bytes).frame = l2tpFrame bytes := rfl

@[simp] theorem Message.frame_pppoe (bytes : List UInt8) :
    (Message.pppoe bytes).frame = pppoeFrame bytes := rfl

def Input.message : Input → Message
  | .l2tp packet => .l2tp (readBytes packet.memory packet.start packet.size)
  | .pppoe packet => .pppoe (readBytes packet.memory packet.start packet.size)

/-- Both messages carry one frame. -/
def Carries (received sent : Message) : Prop :=
  ∃ frame, received.frame = some frame ∧ sent.frame = some frame

end L2tpns.L2tp
