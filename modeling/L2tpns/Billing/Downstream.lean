import L2tpns.Cluster.Bytes
import L2tpns.Encap.Makeppp
import L2tpns.Ppp.Packets
import L2tpns.Server.Spoofing
import L2tpns.Server.Tbf

/-! # Counting of packets to users

A packet of the device goes to its user in one frame, or in a fragment for each link of a bundle.
It is counted in the session, in the amount that accounting has not seen yet and in the counters
that a slave reports to its master.

`processipout` counts each frame as it sends it, and the whole packet once more at its end, in the
session only. So a packet that it sends by itself is always counted wrong. The other ways to the
user count a packet once, but also if the tunnel has no other end to send it to
(`L2tpns.Billing.downstream_counted_iff`).
-/

namespace L2tpns.Billing

open Function

open Avp (Memory readBytes writeBytes)
open Cluster.Bytes (Traffic Usage)
open Encap (makeppp makeppp_made mpBegin mpEnd optMakeppp optPppoeMakeppp pppoeBytes_single
  pppoeMakeppp)
open L2tp (Message tunnelsend)
open Server (FsmState InAddr IpFilterRule adjustMss byteAt bytesToNat ipFilter maxEther pppIpv6
  tunnelIdPppoe word)
open Server.Throttle (Sent Tbf Tbfs tbfMaxQueue)

/-- What is read of a session when a packet goes out to it, and what is counted there. -/
structure OutSession where
  ip : InAddr
  mru : Nat
  mrru : Nat
  bundle : Nat
  filterOut : Nat
  tbfOut : Nat
  throttleOut : Nat
  walledGarden : Bool
  lcp : FsmState
  lastData : Nat
  traffic : Traffic

/-- What is kept for a session on this server only. -/
structure OutLocal where
  lastPacketOut : Nat
  packetsOut : UInt32
  packetsDropped : UInt32
  usage : Usage

/-- A packet of the device, behind its header. What is read behind its end is zero. -/
structure TunPacket where
  header : Vector UInt8 4
  payload : List UInt8

/-- The token buckets, none of which holds more than it may. -/
structure Buckets where
  tbfs : Tbfs TunPacket
  queue_le : ∀ id, (tbfs.bucket id).queue.length ≤ tbfMaxQueue

/-- What is sent: a frame with `len` bytes of a packet to a session, an ICMP message to the sender
of a packet, or a packet to the master. -/
inductive Effect where
  | frame (s len : Nat) (message : Message)
  | hostUnreachable (packet : List UInt8)
  | masterThrottlePacket (tbf : Nat) (packet : TunPacket)
  | masterGardenPacket (s : Nat) (packet : TunPacket)
  | masterForwardMpppPacket (s : Nat) (packet : TunPacket)

/-- The tables and the configuration, and what has been sent. The links of a bundle are counted in
8 bits. -/
structure Downstream where
  encap : Encap.State
  links_lt : ∀ bid, (encap.bundle bid).numOfLinks < 2 ^ 8
  session : Nat → OutSession
  sessLocal : Nat → OutLocal
  members : Nat → Nat → Nat
  currentSes : Nat → Nat
  buckets : Buckets
  sessionbyip : InAddr → Nat
  sessionbyipv6 : Nat → Nat
  sessionbyipv6new : Nat → Nat
  filterRules : Nat → List IpFilterRule
  maxPackets : Int
  noThrottleLocalIp : Bool
  iamMaster : Bool
  mss : Nat
  icmpRate : Int
  /-- ICMP messages in the second `last`. -/
  rate : Nat
  last : Nat
  /-- `TIME`, in tenths of a second. -/
  time : Nat
  timeNow : Nat
  log : List Effect

/-- `PPPIP`. -/
def pppIp : Nat := 0x0021

/-- `MIN_IP_SIZE`. -/
def minIpSize : Nat := 0x19

/-- `MINFRAGLEN`. -/
def minFragLen : Nat := 64

/-- Where the packet is, with room for a header in front. -/
def bufAt : Nat := 64

/-- Where the buffer is that a frame is made in, apart from the packet. -/
def fragbufAt : Nat := 8192

/-- The memory with a packet in it. -/
def placed (payload : List UInt8) : Memory := writeBytes (fun _ => 0) bufAt payload

namespace Buckets

variable (buckets : Buckets)

def queuePacket (id : Nat) (packet : TunPacket) : Buckets × List (Sent TunPacket) :=
  let result := buckets.tbfs.tbfQueuePacket id ⟨packet.payload.length + 4, packet⟩
  (⟨result.1, (Tbfs.tbfQueuePacket_length buckets.queue_le id _).1⟩, result.2)

def runQueue (id : Nat) : Buckets × List (Sent TunPacket) :=
  let result := buckets.tbfs.tbfRunQueue id
  (⟨result.1, (Tbfs.tbfRunQueue_length buckets.queue_le id).1⟩, result.2)

end Buckets

theorem counted_numOfLinks (st : Encap.State) (bid other : Nat) :
    (st.counted bid other).numOfLinks = (st.bundle other).numOfLinks := by
  rw [Encap.State.counted]
  split
  · by_cases here : other = bid
    · rw [here, update_self]
    · rw [update_of_ne here]
  · rfl

theorem makeppp_numOfLinks (st : Encap.State) (memory : Memory) (b size : Nat) (p : Option Nat)
    (l s t mtype : Nat) (prio : Bool) (bid : Nat) (mpBits : UInt8) (other : Nat) :
    ((makeppp st memory b size p l s t mtype prio bid mpBits).bundle other).numOfLinks =
      (st.bundle other).numOfLinks := by
  have same := counted_numOfLinks st bid other
  cases p
  all_goals
    simp only [makeppp, pppoeMakeppp]
    split_ifs <;> first | rfl | exact same

theorem optMakeppp_numOfLinks (st : Encap.State) (memory : Memory) (p l s t mtype : Nat)
    (prio : Bool) (bid : Nat) (mpBits : UInt8) (other : Nat) :
    ((optMakeppp st memory p l s t mtype prio bid mpBits).bundle other).numOfLinks =
      (st.bundle other).numOfLinks := by
  have same := counted_numOfLinks st bid other
  simp only [optMakeppp, optPppoeMakeppp]
  split_ifs <;> first | rfl | exact same

namespace Downstream

variable (d : Downstream)

/-- The bundles after a frame was made. -/
def setBundles (bundle : Nat → Encap.Bundle)
    (same : ∀ bid, (bundle bid).numOfLinks = (d.encap.bundle bid).numOfLinks) : Downstream :=
  { d with
    encap := { d.encap with bundle := bundle }
    links_lt := fun bid => (same bid).trans_lt (d.links_lt bid) }

def emit (effect : Effect) : Downstream := { d with log := d.log ++ [effect] }

def tunnel (s : Nat) : Nat := (d.encap.links.session s).tunnel

def setSession (s : Nat) (record : OutSession) : Downstream :=
  { d with session := Function.update d.session s record }

def setLocal (s : Nat) (record : OutLocal) : Downstream :=
  { d with sessLocal := Function.update d.sessLocal s record }

/-- `cout` with its wraps, `cout_delta` and `pout`. -/
def countSession (s len : Nat) : Downstream :=
  d.setSession s { d.session s with traffic := (d.session s).traffic.add ⟨1, UInt32.ofNat len⟩ }

/-- `cout` and `pout` of what is kept locally, to send to the master. -/
def countLocal (s len : Nat) : Downstream :=
  let usage := (d.sessLocal s).usage
  d.setLocal s { d.sessLocal s with
    usage := ⟨usage.packets + 1, usage.bytes + UInt32.ofNat len⟩ }

def touch (s : Nat) : Downstream :=
  d.setSession s { d.session s with lastData := d.timeNow }

def updateSessionOutStat (s len : Nat) : Downstream :=
  ((d.countSession s len).touch s).countLocal s len

/-- Send the `size` bytes at `start`, a frame with `len` bytes of a packet, to session `s`. -/
def transmit (memory : Memory) (start size s len : Nat) : Downstream :=
  match tunnelsend d.encap.links memory start (size % 2 ^ 16) (d.tunnel s) with
  | .sent message => d.emit (.frame s len message)
  | _ => d

/-- Send a copy of the `l` bytes at `p`. It is not sent if `makeppp` returns a null pointer. -/
def sendCopy (memory : Memory) (p l s mtype bid : Nat) (mpBits : UInt8) : Downstream × Bool :=
  let made := makeppp d.encap memory fragbufAt (maxEther + 20) (some p) l s (d.tunnel s) mtype
    false bid mpBits
  let used := d.setBundles made.bundle fun _ => makeppp_numOfLinks ..
  match made.frame with
  | some q => (used.transmit made.memory fragbufAt (l + (q - fragbufAt)) s l, true)
  | none => (used, false)

/-- Send the `l` bytes at `p` from where they are, and count them. -/
def sendInPlace (memory : Memory) (p l s : Nat) : Downstream :=
  let made := optMakeppp d.encap memory p l s (d.tunnel s) pppIp false 0 0
  let used := d.setBundles made.bundle fun _ => optMakeppp_numOfLinks ..
  match made.frame with
  | some q => (used.transmit made.memory q (l + (p - q)) s l).updateSessionOutStat s l
  | none => used

/-- Send the `l` bytes at `p` as a fragment, and count them. -/
def sendFragment (memory : Memory) (p l s bid : Nat) (mpBits : UInt8) : Downstream × Bool :=
  let (sent, made) := d.sendCopy memory p l s pppIp bid mpBits
  (if made then sent.updateSessionOutStat s l else sent, made)

/-- The next link in turn. -/
def rotate (bid : Nat) (links : List Nat) : Downstream × Nat :=
  let turn := (d.currentSes bid + 1) % links.length
  ({ d with currentSes := Function.update d.currentSes bid turn }, links.getD turn 0)

/-- How a loop over fragments ends, with what remains to be sent, or none if one cannot be made. -/
structure Fragments where
  state : Downstream
  remain : Option Nat

/-- Send fragments of `fraglen` bytes while there is more than the last one. -/
def middleFragments (memory : Memory) (len fraglen lastFraglen bid : Nat) (links : List Nat) :
    Nat → Downstream → Nat → Fragments
  | 0, d, remain => ⟨d, some remain⟩
  | fuel + 1, d, remain =>
      if lastFraglen < remain then
        let (rotated, s) := d.rotate bid links
        let (sent, made) := rotated.sendFragment memory (bufAt + (len - remain)) fraglen s bid 0
        if made then
          middleFragments memory len fraglen lastFraglen bid links fuel sent (remain - fraglen)
        else ⟨sent, none⟩
      else ⟨d, some remain⟩

/-- Send a packet of `len` bytes in fragments, the first of them to `s`. Returned is the session
of the last one, if all of them were made. -/
def sendFragments (memory : Memory) (len s bid : Nat) (links : List Nat) :
    Downstream × Option Nat :=
  let divisor := if 2 < links.length then links.length / 2 + links.length % 2 else links.length
  let fraglen := len / divisor
  let lastFraglen := fraglen + len % divisor
  let (begun, made) := d.sendFragment memory bufAt fraglen s bid mpBegin
  if made then
    let middle := middleFragments memory len fraglen lastFraglen bid links len begun
      (len - fraglen)
    match middle.remain with
    | some remain =>
        let (rotated, s) := middle.state.rotate bid links
        let (sent, made) := rotated.sendFragment memory (bufAt + (len - remain)) remain s bid mpEnd
        (sent, if made then some s else none)
    | none => (middle.state, none)
  else (begun, none)

def allLinks (bid : Nat) : List Nat :=
  (List.range (d.encap.bundle bid).numOfLinks).map (d.members bid)

def openLinks (bid : Nat) : List Nat :=
  (d.allLinks bid).filter fun s => (d.session s).lcp = .opened

/-- Send a packet of `len` bytes over the links of a bundle. -/
def sendBundled (memory : Memory) (len bid : Nat) (links : List Nat) : Downstream × Option Nat :=
  let (rotated, s) := d.rotate bid links
  if 1 < links.length then
    if minFragLen < len then rotated.sendFragments memory len s bid links
    else
      let (sent, made) := rotated.sendFragment memory bufAt len s bid (mpBegin ||| mpEnd)
      (sent, if made then some s else none)
  else (rotated.sendInPlace memory bufAt len s, some s)

/-- `send_ipout`. -/
def sendIpout (s : Nat) (packet : TunPacket) : Downstream :=
  let len := packet.payload.length
  if maxEther < len + 4 then d
  else if (d.session s).ip = 0 then d
  else
    let proto := if packet.header[2] = 0x86 ∧ packet.header[3] = 0xDD then pppIpv6 else pppIp
    let (sent, made) := d.sendCopy (placed packet.payload) bufAt len s proto 0 0
    if made then (sent.countSession s len).countLocal s len else sent

/-- What a bucket lets go is sent to the user, or comes from there and is not counted here. -/
def deliver (sent : Sent TunPacket) : Downstream :=
  match sent.direction with
  | .outward => d.sendIpout sent.sid sent.data
  | .inward => d

/-- `tbf_queue_packet`. -/
def tbfQueuePacket (id : Nat) (packet : TunPacket) : Downstream :=
  let (buckets, sent) := d.buckets.queuePacket id packet
  sent.foldl deliver { d with buckets := buckets }

/-- `tbf_run_queue`. -/
def tbfRunQueue (id : Nat) : Downstream :=
  let (buckets, sent) := d.buckets.runQueue id
  sent.foldl deliver { d with buckets := buckets }

/-- Queue a packet in a bucket, which the master does. -/
def throttle (id : Nat) (packet : TunPacket) : Downstream :=
  if d.iamMaster then d.tbfQueuePacket id packet
  else d.emit (.masterThrottlePacket id packet)

/-- Tell the sender that the host is unreachable, but not too often in a second. -/
def hostUnreachable (buf : List UInt8) : Downstream :=
  let fresh := if d.last ≠ d.timeNow then { d with last := d.timeNow, rate := 0 } else d
  let counted := { fresh with rate := fresh.rate + 1 }
  if fresh.rate < d.icmpRate then counted.emit (.hostUnreachable buf) else counted

/-- The packets of a session that are let through in a tenth of a second. A slave lets through
what is less of its limit and of the rate of the session. -/
def outLimit (s : Nat) : Int :=
  let throttleOut := (d.session s).throttleOut
  if ¬ d.iamMaster ∧ throttleOut ≠ 0 ∧ throttleOut < d.maxPackets then throttleOut
  else d.maxPackets

/-- Count a packet, and whether it is one too many. -/
def limitPackets (s : Nat) : Downstream × Bool :=
  let own := d.sessLocal s
  if 0 < d.maxPackets then
    if own.lastPacketOut = d.time then
      let counted := { own with packetsOut := own.packetsOut + 1 }
      if d.outLimit s < counted.packetsOut.toNat then
        (d.setLocal s { counted with packetsDropped := own.packetsDropped + 1 }, true)
      else (d.setLocal s counted, false)
    else
      (d.setLocal s { own with lastPacketOut := d.time, packetsOut := 1, packetsDropped := 0 },
        false)
  else (d, false)

/-- The bundle of a session has several links. -/
def isBundled (s : Nat) : Bool :=
  let bid := (d.session s).bundle
  decide (bid ≠ 0 ∧ 1 < (d.encap.bundle bid).numOfLinks)

/-- A packet to a session is throttled. Packets from one session to another may not be. -/
def isThrottled (s : Nat) (buf : List UInt8) : Bool :=
  decide ((d.session s).tbfOut ≠ 0 ∧
    (d.noThrottleLocalIp = false ∨ d.sessionbyip (word buf 12) = 0))

/-- Send a packet of `len` bytes to a session, if it is not one of a bundle without links. Returned
is the session of the last frame. -/
def sendDirectly (memory : Memory) (len s : Nat) : Downstream × Option Nat :=
  if d.isBundled s then
    let bid := (d.session s).bundle
    let links := d.openLinks bid
    if links.length < 1 then (d, none) else d.sendBundled memory len bid links
  else (d.sendInPlace memory bufAt len s, some s)

/-- The packet to session `s`, with the part of `processipout` after the filter. -/
def forwardOut (s : Nat) (packet : TunPacket) : Downstream :=
  let len := packet.payload.length
  let adjusted := { packet with payload := adjustMss d.mss packet.payload }
  if d.isThrottled s packet.payload then d.throttle (d.session s).tbfOut adjusted
  else if (d.session s).walledGarden ∧ ¬ d.iamMaster then d.emit (.masterGardenPacket s adjusted)
  else if d.isBundled s ∧ ¬ d.iamMaster then d.emit (.masterForwardMpppPacket s adjusted)
  else
    match d.sendDirectly (placed adjusted.payload) len s with
    | (sent, some last) => sent.countSession last len
    | (failed, none) => failed

def processipout (packet : TunPacket) : Downstream :=
  let buf := packet.payload
  let len := buf.length
  let s := d.sessionbyip (word buf 16)
  if len + 4 < minIpSize then d
  else if maxEther ≤ len + 4 then d
  else if byteAt buf 0 / 16 ≠ 4 then d
  else if s = 0 then d.hostUnreachable buf
  else if (d.session s).mru < len ∨ (d.session s).mrru ≠ 0 ∧ (d.session s).mrru < len then d
  else
    let (counted, dropped) := d.limitPackets s
    let filter := (d.session s).filterOut
    if dropped then counted
    else if filter ≠ 0 ∧ ¬ ipFilter (d.filterRules (filter - 1)) buf then counted
    else counted.forwardOut s packet

/-- The session of an IPv6 packet. -/
def sessionOf (buf : List UInt8) : Nat :=
  let ip6 := bytesToNat (buf.drop 24) 16
  if d.sessionbyipv6 ip6 = 0 then d.sessionbyipv6new ip6 else d.sessionbyipv6 ip6

/-- The session itself, or the next link of its bundle. -/
def linkFor (s : Nat) : Downstream × Nat :=
  let bid := (d.session s).bundle
  if d.isBundled s then d.rotate bid (d.allLinks bid) else (d, s)

def processipv6out (packet : TunPacket) : Downstream :=
  let buf := packet.payload
  let len := buf.length
  if len + 4 < minIpSize then d
  else if maxEther ≤ len + 4 then d
  else if byteAt buf 0 / 16 ≠ 6 then d
  else if d.sessionOf buf = 0 then d
  else
    let (rotated, s) := d.linkFor (d.sessionOf buf)
    let touched := rotated.touch s
    if (touched.session s).tbfOut ≠ 0 then touched.throttle (touched.session s).tbfOut packet
    else if (touched.session s).walledGarden ∧ ¬ d.iamMaster then
      touched.emit (.masterGardenPacket s packet)
    else
      let (sent, made) := touched.sendCopy (placed buf) bufAt len s pppIpv6 0 0
      if made then (sent.countSession s len).countLocal s len else sent

end Downstream

/-- What is done for packets to users. -/
inductive Call where
  | processipout (packet : TunPacket)
  | processipv6out (packet : TunPacket)
  | sendIpout (s : Nat) (packet : TunPacket)
  | tbfRunQueue (id : Nat)

def Downstream.run (d : Downstream) : Call → Downstream
  | .processipout packet => d.processipout packet
  | .processipv6out packet => d.processipv6out packet
  | .sendIpout s packet => d.sendIpout s packet
  | .tbfRunQueue id => d.tbfRunQueue id

section

variable {st : Encap.State} {memory : Memory} {b size p l s t mtype bid q : Nat} {prio : Bool}
  {mpBits : UInt8}

/-- A frame to a session leaves if its tunnel has another end. -/
def Reaches (links : L2tp.Links) (s len : Nat) : Prop :=
  let t := (links.session s).tunnel
  t ≠ 0 ∧
    if t = tunnelIdPppoe then (links.session (s % 2 ^ 16)).tunnel = t ∧ 0 < len
    else (links.tunnel t).ip ≠ 0

/-- The header of a PPPoE frame names the session. -/
theorem agrees_sid {more : List UInt8}
    (agrees : Encap.Agrees memory b (st.pppoeBytes s mtype bid mpBits ++ more)) :
    Avp.ntohs memory (b + 16) = s % 2 ^ 16 := by
  have high : memory (b + 16) = UInt8.ofNat (s / 2 ^ 8) :=
    agrees 16 _ (by simp [Encap.State.pppoeBytes, L2tp.setupHeader, Server.bytes16,
      List.getElem?_append])
      (by simp) (by simp)
  have low : memory (b + 17) = UInt8.ofNat s :=
    agrees 17 _ (by simp [Encap.State.pppoeBytes, L2tp.setupHeader, Server.bytes16,
      List.getElem?_append])
      (by simp) (by simp)
  rw [Avp.ntohs, high, Nat.add_assoc, low, UInt8.toNat_ofNat', UInt8.toNat_ofNat']
  omega

/-- What becomes of a frame without a multilink header. -/
theorem makeppp_sends_iff {copy : Option Nat} (small : l + 22 < 2 ^ 16)
    (made : (makeppp st memory b size copy l s (st.links.session s).tunnel mtype prio 0
      mpBits).frame = some q) :
    (∃ message, tunnelsend st.links (makeppp st memory b size copy l s
        (st.links.session s).tunnel mtype prio 0 mpBits).memory b ((l + (q - b)) % 2 ^ 16)
        (st.links.session s).tunnel = .sent message) ↔ Reaches st.links s l := by
  rw [Reaches]
  by_cases pppoe : (st.links.session s).tunnel = tunnelIdPppoe
  · rw [pppoe] at made ⊢
    have remote : tunnelIdPppoe ≠ 0 := by simp [tunnelIdPppoe]
    simp only [makeppp, ↓reduceIte] at made ⊢
    obtain ⟨rfl, fits, _, payload, _, agrees⟩ := Encap.pppoeMakeppp_header made
    rw [L2tp.tunnelsend_pppoe, L2tp.pppoeSessSend, agrees_sid agrees]
    have header := @pppoeBytes_single st s mtype mpBits
    have size : (l + (b + (st.pppoeBytes s mtype 0 mpBits).length - b)) % 2 ^ 16 = l + 22 := by
      rw [header]
      omega
    rw [size]
    split_ifs with one other short
    · exact absurd rfl one
    · exact iff_of_false (by simp) fun both => other both.2.1
    · exact iff_of_false (by simp) fun both => by omega
    · exact iff_of_true ⟨_, rfl⟩ ⟨remote, not_not.mp other, by omega⟩
  · obtain ⟨rfl, fits, _, payload, _, written⟩ := Encap.makeppp_header pppoe made
    rw [written, Encap.tunnelsend_plain pppoe (Encap.l2tpBytes_plain ..), if_neg pppoe]
    split_ifs with zero unset
    · exact iff_of_false (by simp) fun both => both.1 zero
    · exact iff_of_false (by simp) fun both => both.2 unset
    · exact iff_of_true ⟨_, rfl⟩ ⟨zero, unset⟩

end

/-- The lengths of the frames to a session. -/
def framesTo (s : Nat) (log : List Effect) : List Nat :=
  log.filterMap fun
    | .frame t len _ => if t = s then some len else none
    | _ => none

/-- The counters of a session moved by frames of these lengths, and so did those that go to the
master. -/
structure Billed (lens : List Nat) (before after : Traffic) (own next : Usage) : Prop where
  cout : after.wide = (before.wide + lens.sum) % 2 ^ 64
  coutDelta : after.delta = before.delta + UInt32.ofNat lens.sum
  pout : after.packets = before.packets + UInt32.ofNat lens.length
  localCout : next.bytes = own.bytes + UInt32.ofNat lens.sum
  localPout : next.packets = own.packets + UInt32.ofNat lens.length

/-- The counters of each session moved by the frames that were sent to it. -/
def CountedOnce (d next : Downstream) : Prop :=
  ∃ sent, next.log = d.log ++ sent ∧ ∀ s, Billed (framesTo s sent) (d.session s).traffic
    (next.session s).traffic (d.sessLocal s).usage (next.sessLocal s).usage

def countAll (traffic : Traffic) (lens : List Nat) : Traffic :=
  lens.foldl (fun traffic len => traffic.add ⟨1, UInt32.ofNat len⟩) traffic

def useAll (usage : Usage) (lens : List Nat) : Usage :=
  lens.foldl (fun usage len => ⟨usage.packets + 1, usage.bytes + UInt32.ofNat len⟩) usage

variable (traffic : Traffic) (usage : Usage) (lens : List Nat)

theorem countAll_cons (len : Nat) (rest : List Nat) :
    countAll traffic (len :: rest) = countAll (traffic.add ⟨1, UInt32.ofNat len⟩) rest := rfl

theorem useAll_cons (len : Nat) (rest : List Nat) :
    useAll usage (len :: rest) =
      useAll ⟨usage.packets + 1, usage.bytes + UInt32.ofNat len⟩ rest := rfl

theorem countAll_packets :
    (countAll traffic lens).packets = traffic.packets + UInt32.ofNat lens.length := by
  induction lens generalizing traffic with
  | nil => exact (UInt32.add_zero _).symm
  | cons len rest ih =>
      have one : (traffic.add ⟨1, UInt32.ofNat len⟩).packets = traffic.packets + 1 := rfl
      rw [countAll_cons, ih, one, List.length_cons, Nat.add_comm, UInt32.ofNat_add,
        ← UInt32.add_assoc]
      rfl

theorem countAll_delta : (countAll traffic lens).delta = traffic.delta + UInt32.ofNat lens.sum := by
  induction lens generalizing traffic with
  | nil => exact (UInt32.add_zero _).symm
  | cons len rest ih =>
      have first : (traffic.add ⟨1, UInt32.ofNat len⟩).delta =
          traffic.delta + UInt32.ofNat len := rfl
      rw [countAll_cons, ih, first, List.sum_cons, UInt32.ofNat_add, ← UInt32.add_assoc]

theorem countAll_wide {lens : List Nat} (small : ∀ len ∈ lens, len < 2 ^ 32) :
    (countAll traffic lens).wide = (traffic.wide + lens.sum) % 2 ^ 64 := by
  induction lens generalizing traffic with
  | nil => rw [countAll, List.foldl_nil, List.sum_nil, Nat.add_zero, Traffic.wide_mod]
  | cons len rest ih =>
      have first : (UInt32.ofNat len).toNat = len := by
        rw [UInt32.toNat_ofNat']
        exact Nat.mod_eq_of_lt (small len (List.mem_cons_self ..))
      rw [countAll_cons, ih _ fun other member => small other (List.mem_cons_of_mem _ member),
        Traffic.add_wide, first, List.sum_cons, Nat.mod_add_mod, Nat.add_assoc]

theorem useAll_packets :
    (useAll usage lens).packets = usage.packets + UInt32.ofNat lens.length := by
  induction lens generalizing usage with
  | nil => exact (UInt32.add_zero _).symm
  | cons len rest ih =>
      rw [useAll_cons, ih, List.length_cons, Nat.add_comm, UInt32.ofNat_add, ← UInt32.add_assoc]
      rfl

theorem useAll_bytes : (useAll usage lens).bytes = usage.bytes + UInt32.ofNat lens.sum := by
  induction lens generalizing usage with
  | nil => exact (UInt32.add_zero _).symm
  | cons len rest ih =>
      rw [useAll_cons, ih, List.sum_cons, UInt32.ofNat_add, ← UInt32.add_assoc]

/-- A step counts `counted` in the session `s` and `own` for the master, and sends it `sent`. -/
structure Tally (d next : Downstream) (s : Nat) (counted own sent : List Nat) : Prop where
  traffic : (next.session s).traffic = countAll (d.session s).traffic counted
  usage : (next.sessLocal s).usage = useAll (d.sessLocal s).usage own
  log : ∃ more, next.log = d.log ++ more ∧ framesTo s more = sent

/-- What is seen of a frame by session `s`. -/
def seen (s t len : Nat) : List Nat := if t = s then [len] else []

theorem framesTo_append (s : Nat) (log more : List Effect) :
    framesTo s (log ++ more) = framesTo s log ++ framesTo s more := List.filterMap_append ..

theorem framesTo_frame (s t len : Nat) (message : Message) :
    framesTo s [.frame t len message] = seen s t len := by
  rw [seen]
  split_ifs with here <;> simp [framesTo, here]

namespace Tally

variable {d middle next : Downstream} {s t len : Nat}
  {counted own sent counted' own' sent' : List Nat}

theorem trans (first : Tally d middle s counted own sent)
    (second : Tally middle next s counted' own' sent') :
    Tally d next s (counted ++ counted') (own ++ own') (sent ++ sent') where
  traffic := by
    rw [second.traffic, first.traffic, countAll, countAll, countAll, List.foldl_append]
  usage := by
    rw [second.usage, first.usage, useAll, useAll, useAll, List.foldl_append]
  log := by
    obtain ⟨more, log, rfl⟩ := first.log
    obtain ⟨rest, log', rfl⟩ := second.log
    exact ⟨more ++ rest, by rw [log', log, List.append_assoc], framesTo_append ..⟩

theorem idle (session : (next.session s).traffic = (d.session s).traffic)
    (own : (next.sessLocal s).usage = (d.sessLocal s).usage) (log : next.log = d.log) :
    Tally d next s [] [] [] :=
  ⟨session, own, [], by rw [log, List.append_nil], rfl⟩

theorem refl (d : Downstream) (s : Nat) : Tally d d s [] [] [] := idle rfl rfl rfl

theorem countSession (d : Downstream) (s t len : Nat) :
    Tally d (d.countSession t len) s (seen s t len) [] [] := by
  refine ⟨?_, rfl, [], (List.append_nil _).symm, rfl⟩
  rw [Downstream.countSession, Downstream.setSession, seen]
  dsimp only
  by_cases here : t = s
  · rw [if_pos here, here, update_self]
    rfl
  · rw [if_neg here, update_of_ne (Ne.symm here)]
    rfl

theorem countLocal (d : Downstream) (s t len : Nat) :
    Tally d (d.countLocal t len) s [] (seen s t len) [] := by
  refine ⟨rfl, ?_, [], (List.append_nil _).symm, rfl⟩
  rw [Downstream.countLocal, Downstream.setLocal, seen]
  dsimp only
  by_cases here : t = s
  · rw [if_pos here, here, update_self]
    rfl
  · rw [if_neg here, update_of_ne (Ne.symm here)]
    rfl

theorem touch (d : Downstream) (s t : Nat) : Tally d (d.touch t) s [] [] [] := by
  refine idle ?_ rfl rfl
  rw [Downstream.touch, Downstream.setSession]
  dsimp only
  by_cases here : s = t
  · rw [here, update_self]
  · rw [update_of_ne here]

theorem emit (d : Downstream) (s : Nat) (effect : Effect) :
    Tally d (d.emit effect) s [] [] (framesTo s [effect]) :=
  ⟨rfl, rfl, [effect], rfl, rfl⟩

theorem setBundles (d : Downstream) (s : Nat) {bundle : Nat → Encap.Bundle}
    (same : ∀ bid, (bundle bid).numOfLinks = (d.encap.bundle bid).numOfLinks) :
    Tally d (d.setBundles bundle same) s [] [] [] := idle rfl rfl rfl

theorem rotate (d : Downstream) (s bid : Nat) (links : List Nat) :
    Tally d (d.rotate bid links).1 s [] [] [] := idle rfl rfl rfl

theorem updateSessionOutStat (d : Downstream) (s t len : Nat) :
    Tally d (d.updateSessionOutStat t len) s (seen s t len) (seen s t len) [] := by
  have count := ((countSession d s t len).trans (touch _ s t)).trans (countLocal _ s t len)
  rwa [List.append_nil, List.append_nil, List.append_nil, List.append_nil] at count

theorem billed (tally : Tally d next s counted counted counted)
    (small : ∀ len ∈ counted, len < 2 ^ 32) :
    Billed counted (d.session s).traffic (next.session s).traffic (d.sessLocal s).usage
      (next.sessLocal s).usage := by
  rw [tally.traffic, tally.usage]
  exact ⟨countAll_wide _ small, countAll_delta .., countAll_packets .., useAll_bytes ..,
    useAll_packets ..⟩

theorem not_counted (tally : Tally d next s counted own sent)
    (fewer : sent.length < counted.length) (small : counted.length < 2 ^ 32) :
    ¬ CountedOnce d next := by
  rintro ⟨all, log, billed⟩
  obtain ⟨more, log', rfl⟩ := tally.log
  obtain rfl : all = more := List.append_cancel_left (log.symm.trans log')
  have pout := (billed s).pout
  rw [tally.traffic, countAll_packets, UInt32.add_right_inj] at pout
  have same := congrArg UInt32.toNat pout
  rw [UInt32.toNat_ofNat', UInt32.toNat_ofNat', Nat.mod_eq_of_lt small,
    Nat.mod_eq_of_lt (Nat.lt_trans fewer small)] at same
  exact Nat.ne_of_gt fewer same

end Tally

theorem countedOnce_of_tally {d next : Downstream}
    (tally : ∀ s, ∃ counted, Tally d next s counted counted counted ∧
      ∀ len ∈ counted, len < 2 ^ 32) : CountedOnce d next := by
  obtain ⟨_, first, _⟩ := tally 0
  obtain ⟨sent, log, _⟩ := first.log
  refine ⟨sent, log, fun s => ?_⟩
  obtain ⟨counted, tally, small⟩ := tally s
  obtain ⟨more, log', rfl⟩ := tally.log
  obtain rfl : sent = more := List.append_cancel_left (log.symm.trans log')
  exact tally.billed small

theorem countedOnce_of_idle {d next : Downstream} (idle : ∀ s, Tally d next s [] [] []) :
    CountedOnce d next :=
  countedOnce_of_tally fun s => ⟨[], idle s, nofun⟩

theorem CountedOnce.refl (d : Downstream) : CountedOnce d d :=
  countedOnce_of_idle (Tally.refl d)

/-- Each session counts the frames to it, at most `n` of them, also those that are not sent. -/
def Tallies (d next : Downstream) (n : Nat) : Prop :=
  ∀ s, ∃ counted sent, Tally d next s counted counted sent ∧ sent.length ≤ counted.length ∧
    counted.length ≤ n

namespace Tallies

variable {d middle next : Downstream} {m n : Nat}

theorem trans (first : Tallies d middle m) (second : Tallies middle next n) :
    Tallies d next (m + n) := fun s => by
  obtain ⟨counted, sent, tally, fewer, small⟩ := first s
  obtain ⟨counted', sent', tally', fewer', small'⟩ := second s
  refine ⟨_, _, tally.trans tally', ?_, ?_⟩
  all_goals
    rw [List.length_append]
    try rw [List.length_append]
    omega

theorem of_idle (idle : ∀ s, Tally d next s [] [] []) : Tallies d next 0 := fun s =>
  ⟨[], [], idle s, Nat.le_refl _, Nat.le_refl _⟩

theorem le (tallies : Tallies d next m) (more : m ≤ n) : Tallies d next n := fun s => by
  obtain ⟨counted, sent, tally, fewer, small⟩ := tallies s
  exact ⟨counted, sent, tally, fewer, Nat.le_trans small more⟩

theorem countSession_not_counted (tallies : Tallies d next n) (small : n + 1 < 2 ^ 32)
    (s len : Nat) : ¬ CountedOnce d (next.countSession s len) := by
  obtain ⟨counted, sent, tally, fewer, few⟩ := tallies s
  have twice := tally.trans (Tally.countSession next s s len)
  rw [seen, if_pos rfl] at twice
  refine twice.not_counted ?_ ?_
  all_goals
    simp only [List.length_append, List.length_nil, List.length_singleton]
    omega

end Tallies

namespace Downstream

variable {d : Downstream} {memory : Memory} {start size p l s t len bid mtype n : Nat}
  {mpBits : UInt8} {links : List Nat}

theorem seen_length (s t len : Nat) : (seen s t len).length ≤ 1 := by
  rw [seen]
  split_ifs
  · exact Nat.le_refl _
  · exact Nat.zero_le _

theorem seen_small (small : len < 2 ^ 32) : ∀ other ∈ seen s t len, other < 2 ^ 32 := by
  intro other member
  rw [seen] at member
  split_ifs at member
  · rwa [List.mem_singleton.mp member]
  · exact nomatch member

theorem transmit_tally (d : Downstream) (memory : Memory) (start size s len t : Nat) :
    ∃ sent, Tally d (d.transmit memory start size s len) t [] [] sent ∧
      ((∃ message, tunnelsend d.encap.links memory start (size % 2 ^ 16) (d.tunnel s) =
        .sent message) → sent = seen t s len) ∧
      ((¬ ∃ message, tunnelsend d.encap.links memory start (size % 2 ^ 16) (d.tunnel s) =
        .sent message) → sent = []) := by
  rw [transmit]
  split
  · rename_i message leaves
    refine ⟨_, Tally.emit d t _, fun _ => framesTo_frame .., fun lost => ?_⟩
    exact absurd ⟨message, leaves⟩ lost
  · rename_i lost
    exact ⟨[], Tally.refl d t, fun ⟨message, leaves⟩ => absurd leaves (lost message), fun _ => rfl⟩

theorem transmit_le (d : Downstream) (memory : Memory) (start size s len t : Nat) :
    ∃ sent, Tally d (d.transmit memory start size s len) t [] [] sent ∧
      sent.length ≤ (seen t s len).length := by
  obtain ⟨sent, tally, leaves, lost⟩ := d.transmit_tally memory start size s len t
  refine ⟨sent, tally, ?_⟩
  by_cases reaches : ∃ message,
      tunnelsend d.encap.links memory start (size % 2 ^ 16) (d.tunnel s) = .sent message
  · rw [leaves reaches]
  · rw [lost reaches]
    exact Nat.zero_le _

variable {next base : Downstream}

theorem updateSessionOutStat_tallies
    (sends : ∀ t, ∃ sent, Tally d next t [] [] sent ∧ sent.length ≤ (seen t s len).length) :
    Tallies d (next.updateSessionOutStat s len) 1 := fun t => by
  obtain ⟨sent, tally, fewer⟩ := sends t
  refine ⟨_, _, tally.trans (Tally.updateSessionOutStat next t s len), ?_, ?_⟩
  · rwa [List.append_nil, List.nil_append]
  · exact seen_length t s len

theorem sendInPlace_tallies (d : Downstream) (memory : Memory) (p l s : Nat) :
    Tallies d (d.sendInPlace memory p l s) 1 := by
  rw [sendInPlace]
  split
  · refine updateSessionOutStat_tallies fun t => ?_
    obtain ⟨sent, tally, fewer⟩ := transmit_le _ _ _ _ _ _ t
    exact ⟨sent, (Tally.setBundles d t _).trans tally, fewer⟩
  · exact (Tallies.of_idle fun t => Tally.setBundles d t _).le (Nat.zero_le 1)

theorem sendCopy_tally (fits : l + 28 ≤ maxEther + 20) (t : Nat) :
    (d.sendCopy memory p l s mtype bid mpBits).2 = true ∧
      ∃ sent, Tally d (d.sendCopy memory p l s mtype bid mpBits).1 t [] [] sent ∧
        sent.length ≤ (seen t s l).length := by
  obtain ⟨q, made⟩ := @makeppp_made d.encap memory fragbufAt (maxEther + 20) l s (d.tunnel s)
    mtype bid false mpBits (some p) (by simp [maxEther]) (.inl fits)
  rw [sendCopy]
  simp only [made]
  obtain ⟨sent, tally, fewer⟩ := transmit_le _ _ _ _ _ _ t
  exact ⟨trivial, sent, (Tally.setBundles d t _).trans tally, fewer⟩

theorem sendFragment_tallies (fits : l + 28 ≤ maxEther + 20) :
    (d.sendFragment memory p l s bid mpBits).2 = true ∧
      Tallies d (d.sendFragment memory p l s bid mpBits).1 1 := by
  have made := (@sendCopy_tally d memory p l s bid pppIp mpBits fits 0).1
  rw [sendFragment]
  dsimp only
  rw [if_pos made]
  exact ⟨made, updateSessionOutStat_tallies fun t => (sendCopy_tally fits t).2⟩

theorem rotate_tallies (d : Downstream) (bid : Nat) (links : List Nat) :
    Tallies d (d.rotate bid links).1 0 := Tallies.of_idle fun s => Tally.rotate d s bid links

/-- The loop ends when the last fragment is left. -/
theorem middleFragments_tallies {fraglen lastFraglen : Nat} (fits : fraglen + 28 ≤ maxEther + 20)
    {fuel remain : Nat} (moves : 0 < fraglen ∨ remain ≤ lastFraglen) (enough : remain ≤ fuel) :
    (∃ rest, (middleFragments memory len fraglen lastFraglen bid links fuel d remain).remain =
      some rest ∧ rest ≤ lastFraglen) ∧
      Tallies d (middleFragments memory len fraglen lastFraglen bid links fuel d remain).state
        fuel := by
  induction fuel generalizing d remain with
  | zero =>
      obtain rfl := Nat.le_zero.mp enough
      exact ⟨⟨0, rfl, Nat.zero_le _⟩, Tallies.of_idle (Tally.refl d)⟩
  | succ fuel ih =>
      rw [middleFragments]
      dsimp only
      by_cases more : lastFraglen < remain
      · have positive : 0 < fraglen := moves.resolve_right (Nat.not_le.mpr more)
        obtain ⟨made, sends⟩ := @sendFragment_tallies (d.rotate bid links).1 memory
          (bufAt + (len - remain)) fraglen (d.rotate bid links).2 bid 0 fits
        rw [if_pos more, if_pos made]
        obtain ⟨ends, rest⟩ := @ih ((d.rotate bid links).1.sendFragment memory
          (bufAt + (len - remain)) fraglen (d.rotate bid links).2 bid 0).1 (remain - fraglen)
          (.inl positive) (by omega)
        refine ⟨ends, (((rotate_tallies d bid links).trans sends).trans rest).le ?_⟩
        omega
      · rw [if_neg more]
        exact ⟨⟨remain, rfl, Nat.not_lt.mp more⟩,
          (Tallies.of_idle (Tally.refl d)).le (Nat.zero_le _)⟩

/-- All fragments of a packet fit the buffer. -/
theorem sendFragments_tallies (several : 1 < links.length) (few : links.length < 2 ^ 8)
    (short : len < maxEther) :
    (∃ last, (d.sendFragments memory len s bid links).2 = some last) ∧
      Tallies d (d.sendFragments memory len s bid links).1 (len + 2) := by
  rw [sendFragments]
  dsimp only
  generalize divides : (if 2 < links.length then links.length / 2 + links.length % 2
    else links.length) = divisor
  have two : 2 ≤ divisor ∧ divisor < 2 ^ 8 := by
    rw [← divides]
    split_ifs <;> omega
  have half : len / divisor ≤ len / 2 := Nat.div_le_div_left two.1 (by simp)
  have rest : len % divisor < divisor := Nat.mod_lt _ (by omega)
  have ether : maxEther = 2618 := rfl
  have whole := Nat.div_add_mod len divisor
  obtain ⟨made, begins⟩ := @sendFragment_tallies d memory bufAt (len / divisor) s bid mpBegin
    (by omega)
  rw [if_pos made]
  have moves : 0 < len / divisor ∨ len - len / divisor ≤ len / divisor + len % divisor := by
    by_cases none : len / divisor = 0
    · rw [none, Nat.mul_zero, Nat.zero_add] at whole
      rw [none, whole]
      exact .inr (Nat.le_of_eq (Nat.zero_add _).symm)
    · exact .inl (Nat.pos_of_ne_zero none)
  obtain ⟨⟨remain, left, small⟩, sends⟩ := @middleFragments_tallies
    (d.sendFragment memory bufAt (len / divisor) s bid mpBegin).1 memory len bid links
    (len / divisor) (len / divisor + len % divisor) (by omega) len (len - len / divisor) moves
    (by omega)
  generalize middleFragments memory len (len / divisor) (len / divisor + len % divisor) bid links
    len (d.sendFragment memory bufAt (len / divisor) s bid mpBegin).1 (len - len / divisor) =
    middle at left sends ⊢
  rw [left]
  obtain ⟨made, ends⟩ := @sendFragment_tallies (middle.state.rotate bid links).1 memory
    (bufAt + (len - remain)) remain (middle.state.rotate bid links).2 bid mpEnd (by omega)
  dsimp only
  rw [if_pos made]
  refine ⟨⟨_, rfl⟩, ?_⟩
  exact (((begins.trans sends).trans (rotate_tallies middle.state bid links)).trans ends).le
    (by omega)

theorem openLinks_length (d : Downstream) (bid : Nat) : (d.openLinks bid).length < 2 ^ 8 := by
  refine Nat.lt_of_le_of_lt (List.length_filter_le ..) ?_
  rw [allLinks, List.length_map, List.length_range]
  exact d.links_lt bid

/-- A packet that is sent is counted in the session of its last frame. -/
theorem sendDirectly_tallies (short : len < maxEther)
    (linked : d.isBundled s = true → d.openLinks (d.session s).bundle ≠ []) :
    ∃ last, (d.sendDirectly memory len s).2 = some last ∧
      Tallies d (d.sendDirectly memory len s).1 (len + 2) := by
  rw [sendDirectly]
  dsimp only
  by_cases bundled : d.isBundled s = true
  · have few := d.openLinks_length (d.session s).bundle
    have some_open := List.length_pos_iff.mpr (linked bundled)
    rw [if_pos bundled, if_neg (Nat.not_lt.mpr some_open), sendBundled]
    dsimp only
    generalize d.openLinks (d.session s).bundle = links at few some_open ⊢
    have turned := rotate_tallies d (d.session s).bundle links
    split_ifs with several long made
    · obtain ⟨⟨last, ends⟩, sends⟩ := @sendFragments_tallies
        (d.rotate (d.session s).bundle links).1 memory (d.rotate (d.session s).bundle links).2 len
        (d.session s).bundle links several few short
      exact ⟨last, ends, (turned.trans sends).le (by omega)⟩
    all_goals
      first
      | have fits : len + 28 ≤ maxEther + 20 := by
          have shorter : len ≤ minFragLen := Nat.not_lt.mp long
          simp only [minFragLen, maxEther] at shorter ⊢
          omega
        obtain ⟨made', sends⟩ := @sendFragment_tallies (d.rotate (d.session s).bundle links).1
          memory bufAt len (d.rotate (d.session s).bundle links).2 (d.session s).bundle
          (mpBegin ||| mpEnd) fits
        first
        | exact ⟨_, rfl, (turned.trans sends).le (by omega)⟩
        | exact absurd made' made
      | exact ⟨_, rfl, (turned.trans (sendInPlace_tallies _ memory bufAt len _)).le (by omega)⟩
  · rw [if_neg bundled]
    exact ⟨s, rfl, Tallies.le (sendInPlace_tallies d memory bufAt len s) (by omega)⟩

/-- What is decided on when a frame is sent stays. -/
structure Keeps (d next : Downstream) : Prop where
  links : next.encap.links = d.encap.links
  ip : ∀ s, (next.session s).ip = (d.session s).ip

theorem Keeps.trans {middle : Downstream} (first : Keeps d middle)
    (second : Keeps middle next) : Keeps d next :=
  ⟨second.links.trans first.links, fun s => (second.ip s).trans (first.ip s)⟩

theorem setSession_keeps (d : Downstream) (s : Nat) {record : OutSession}
    (same : record.ip = (d.session s).ip) : Keeps d (d.setSession s record) := by
  refine ⟨rfl, fun t => ?_⟩
  rw [setSession]
  dsimp only
  by_cases here : t = s
  · rw [here, update_self]
    exact same
  · rw [update_of_ne here]

theorem setBundles_keeps (d : Downstream) {bundle : Nat → Encap.Bundle}
    (same : ∀ bid, (bundle bid).numOfLinks = (d.encap.bundle bid).numOfLinks) :
    Keeps d (d.setBundles bundle same) := ⟨rfl, fun _ => rfl⟩

theorem transmit_keeps (base : Downstream) (same : Keeps d base) (memory : Memory)
    (start size s l : Nat) :
    Keeps d (((base.transmit memory start size s l).countSession s l).countLocal s l) := by
  have sends : Keeps base (base.transmit memory start size s l) := by
    rw [transmit]
    split
    all_goals exact ⟨rfl, fun _ => rfl⟩
  have counts : Keeps (base.transmit memory start size s l)
      ((base.transmit memory start size s l).countSession s l) := setSession_keeps _ s rfl
  exact (same.trans sends).trans (counts.trans ⟨rfl, fun _ => rfl⟩)

theorem transmit_counts (idle : Tally d base t [] [] []) (memory : Memory) (start size s l : Nat) :
    ∃ sent, Tally d (((base.transmit memory start size s l).countSession s l).countLocal s l) t
        (seen t s l) (seen t s l) sent ∧
      ((∃ message, tunnelsend base.encap.links memory start (size % 2 ^ 16) (base.tunnel s) =
        .sent message) → sent = seen t s l) ∧
      ((¬ ∃ message, tunnelsend base.encap.links memory start (size % 2 ^ 16) (base.tunnel s) =
        .sent message) → sent = []) := by
  obtain ⟨sent, tally, reaches, lost⟩ := base.transmit_tally memory start size s l t
  have counts := ((idle.trans tally).trans (Tally.countSession _ t s l)).trans
    (Tally.countLocal _ t s l)
  simp only [List.append_nil, List.nil_append] at counts
  exact ⟨sent, counts, reaches, lost⟩

/-- A frame without a multilink header that is counted when it is sent, and when it is not. -/
theorem sendCopy_counts (fits : l + 22 ≤ maxEther + 20) :
    (d.sendCopy memory p l s mtype 0 0).2 = true ∧
      Keeps d (((d.sendCopy memory p l s mtype 0 0).1.countSession s l).countLocal s l) ∧
      ∀ t, ∃ sent, Tally d (((d.sendCopy memory p l s mtype 0 0).1.countSession s l).countLocal s
        l) t (seen t s l) (seen t s l) sent ∧
        (Reaches d.encap.links s l → sent = seen t s l) ∧
        (¬ Reaches d.encap.links s l → sent = []) := by
  obtain ⟨q, made⟩ := @makeppp_made d.encap memory fragbufAt (maxEther + 20) l s (d.tunnel s)
    mtype 0 false 0 (some p) (by simp [maxEther]) (.inr ⟨rfl, fits⟩)
  have small : l + 22 < 2 ^ 16 := Nat.lt_of_le_of_lt fits (by simp [maxEther])
  have leaves := makeppp_sends_iff small made
  rw [sendCopy]
  simp only [made]
  refine ⟨trivial, transmit_keeps _ (setBundles_keeps d _) .., fun t => ?_⟩
  obtain ⟨sent, counts, reaches, lost⟩ := transmit_counts (Tally.setBundles d t fun _ =>
    makeppp_numOfLinks d.encap memory fragbufAt (maxEther + 20) (some p) l s (d.tunnel s) mtype
      false 0 0 _) (makeppp d.encap memory fragbufAt (maxEther + 20) (some p) l s (d.tunnel s)
      mtype false 0 0).memory fragbufAt (l + (q - fragbufAt)) s l
  exact ⟨sent, counts, fun ends => reaches (leaves.mpr ends), fun none =>
    lost fun message => none (leaves.mp message)⟩

/-- What a bucket lets go is dropped before it is counted, or it leaves. -/
def Leaves (d : Downstream) (sent : Sent TunPacket) : Prop :=
  let len := sent.data.payload.length
  sent.direction = .outward → len + 4 ≤ maxEther → (d.session sent.sid).ip ≠ 0 →
    Reaches d.encap.links sent.sid len

theorem Keeps.leaves (keeps : Keeps d next) (sent : Sent TunPacket) :
    next.Leaves sent ↔ d.Leaves sent := by
  rw [Leaves, Leaves, keeps.links, keeps.ip]

/-- A session counts up to `n` frames. All are sent if `leaves`, and not all if `lost`. -/
structure Delivers (d next : Downstream) (s n : Nat) (leaves lost : Prop)
    (counted sent : List Nat) : Prop where
  tally : Tally d next s counted counted sent
  small : ∀ len ∈ counted, len < 2 ^ 32
  fewer : sent.length ≤ counted.length
  length_le : counted.length ≤ n
  all : leaves → sent = counted
  missing : lost → sent.length < counted.length

theorem Delivers.idle (idle : Tally d next s [] [] []) {leaves lost : Prop}
    (none : ¬ lost) : Delivers d next s n leaves lost [] [] :=
  ⟨idle, nofun, Nat.le_refl _, Nat.zero_le _, fun _ => rfl, fun some => absurd some none⟩

/-- A frame is counted if it reaches the other end, and if it does not. -/
theorem delivers_seen {sent : List Nat} {reaches : Prop} (small : len < 2 ^ 32)
    (tally : Tally d next t (seen t s len) (seen t s len) sent)
    (leaves : reaches → sent = seen t s len) (lost : ¬ reaches → sent = []) :
    Delivers d next t 1 reaches (¬ reaches ∧ t = s) (seen t s len) sent where
  tally := tally
  small := seen_small small
  fewer := by
    by_cases ends : reaches
    · rw [leaves ends]
    · rw [lost ends]
      exact Nat.zero_le _
  length_le := seen_length t s len
  all := leaves
  missing := by
    rintro ⟨none, rfl⟩
    rw [lost none, seen, if_pos rfl]
    exact Nat.one_pos

theorem sendIpout_delivers (d : Downstream) (s : Nat) (packet : TunPacket) :
    Keeps d (d.sendIpout s packet) ∧ ∀ t, ∃ counted sent,
      Delivers d (d.sendIpout s packet) t 1 (d.Leaves ⟨s, .outward, packet⟩)
        (¬ d.Leaves ⟨s, .outward, packet⟩ ∧ t = s) counted sent := by
  rw [sendIpout]
  dsimp only
  generalize (if packet.header[2] = 0x86 ∧ packet.header[3] = 0xDD then pppIpv6 else pppIp) = proto
  by_cases long : maxEther < packet.payload.length + 4
  · rw [if_pos long]
    refine ⟨⟨rfl, fun _ => rfl⟩, fun t => ⟨[], [], .idle (Tally.refl d t) fun lost => ?_⟩⟩
    exact lost.1 fun _ fits _ => absurd long (Nat.not_lt.mpr fits)
  by_cases unset : (d.session s).ip = 0
  · rw [if_neg long, if_pos unset]
    refine ⟨⟨rfl, fun _ => rfl⟩, fun t => ⟨[], [], .idle (Tally.refl d t) fun lost => ?_⟩⟩
    exact lost.1 fun _ _ set => absurd unset set
  have ether : maxEther = 2618 := rfl
  obtain ⟨made, keeps, counts⟩ := @sendCopy_counts d (placed packet.payload) bufAt
    packet.payload.length s proto (by omega)
  rw [if_neg long, if_neg unset, if_pos made]
  refine ⟨keeps, fun t => ?_⟩
  obtain ⟨sent, tally, reaches, lost⟩ := counts t
  have leaves : d.Leaves ⟨s, .outward, packet⟩ ↔
      Reaches d.encap.links s packet.payload.length :=
    ⟨fun leaves => leaves rfl (Nat.not_lt.mp long) unset, fun ends _ _ _ => ends⟩
  rw [leaves]
  exact ⟨_, sent, delivers_seen (by omega) tally reaches lost⟩

theorem deliver_delivers (d : Downstream) (sent : Sent TunPacket) :
    Keeps d (d.deliver sent) ∧ ∀ t, ∃ counted gone,
      Delivers d (d.deliver sent) t 1 (d.Leaves sent) (¬ d.Leaves sent ∧ t = sent.sid) counted
        gone := by
  obtain ⟨sid, direction, data⟩ := sent
  cases direction with
  | outward => exact d.sendIpout_delivers sid data
  | inward =>
      refine ⟨⟨rfl, fun _ => rfl⟩, fun t => ⟨[], [], .idle (Tally.refl d t) fun lost => ?_⟩⟩
      exact lost.1 nofun

/-- All that a bucket lets go. -/
theorem foldl_deliver_delivers (d : Downstream) (packets : List (Sent TunPacket)) :
    ∀ t, ∃ counted gone, Delivers d (packets.foldl deliver d) t packets.length
      (∀ sent ∈ packets, d.Leaves sent) (∃ sent ∈ packets, ¬ d.Leaves sent ∧ t = sent.sid)
      counted gone := by
  induction packets generalizing d with
  | nil =>
      exact fun t => ⟨[], [], .idle (Tally.refl d t) nofun⟩
  | cons first rest ih =>
      intro t
      obtain ⟨keeps, delivers⟩ := d.deliver_delivers first
      obtain ⟨counted, gone, one⟩ := delivers t
      obtain ⟨counted', gone', others⟩ := ih (d.deliver first) t
      refine ⟨counted ++ counted', gone ++ gone', one.tally.trans others.tally, ?_, ?_, ?_, ?_, ?_⟩
      · exact fun len member => (List.mem_append.mp member).elim (one.small len) (others.small len)
      · rw [List.length_append, List.length_append]
        exact Nat.add_le_add one.fewer others.fewer
      · rw [List.length_append, List.length_cons, Nat.add_comm rest.length]
        exact Nat.add_le_add one.length_le others.length_le
      · intro leaves
        rw [one.all (leaves first (List.mem_cons_self ..)), others.all fun sent member =>
          (keeps.leaves sent).mpr (leaves sent (List.mem_cons_of_mem _ member))]
      · rintro ⟨sent, member, lost, here⟩
        rw [List.length_append, List.length_append]
        rcases List.mem_cons.mp member with rfl | member
        · exact Nat.add_lt_add_of_lt_of_le (one.missing ⟨lost, here⟩) others.fewer
        · refine Nat.add_lt_add_of_le_of_lt one.fewer (others.missing ⟨sent, member, ?_, here⟩)
          rwa [keeps.leaves]

theorem countedOnce_iff {packets : List (Sent TunPacket)} (few : packets.length < 2 ^ 32)
    (delivers : ∀ t, ∃ counted gone, Delivers d next t packets.length
      (∀ sent ∈ packets, d.Leaves sent) (∃ sent ∈ packets, ¬ d.Leaves sent ∧ t = sent.sid)
      counted gone) :
    CountedOnce d next ↔ ∀ sent ∈ packets, d.Leaves sent := by
  constructor
  · intro once sent member
    by_contra lost
    obtain ⟨counted, gone, delivers⟩ := delivers sent.sid
    exact delivers.tally.not_counted (delivers.missing ⟨sent, member, lost, rfl⟩)
      (Nat.lt_of_le_of_lt delivers.length_le few) once
  · refine fun leaves => countedOnce_of_tally fun t => ?_
    obtain ⟨counted, gone, delivers⟩ := delivers t
    have tally := delivers.tally
    rw [delivers.all leaves] at tally
    exact ⟨counted, tally, delivers.small⟩

/-- Nothing is sent or counted. -/
structure Same (d base : Downstream) : Prop where
  traffic : ∀ s, (base.session s).traffic = (d.session s).traffic
  usage : ∀ s, (base.sessLocal s).usage = (d.sessLocal s).usage
  log : base.log = d.log

theorem Same.countedOnce_iff (same : Same d base) : CountedOnce d next ↔ CountedOnce base next := by
  simp only [CountedOnce, same.traffic, same.usage, same.log]

theorem emit_once (d : Downstream) {effect : Effect} (other : ∀ s, framesTo s [effect] = []) :
    CountedOnce d (d.emit effect) :=
  countedOnce_of_idle fun s => other s ▸ Tally.emit d s effect

theorem foldl_deliver_once (d : Downstream) (buckets : Buckets) {packets : List (Sent TunPacket)}
    (few : packets.length < 2 ^ 32) :
    CountedOnce d (packets.foldl deliver { d with buckets := buckets }) ↔
      ∀ sent ∈ packets, d.Leaves sent := by
  have same : Same d { d with buckets := buckets } := ⟨fun _ => rfl, fun _ => rfl, rfl⟩
  exact same.countedOnce_iff.trans (countedOnce_iff few (foldl_deliver_delivers _ packets))

theorem tbfQueuePacket_once (d : Downstream) (id : Nat) (packet : TunPacket) :
    CountedOnce d (d.tbfQueuePacket id packet) ↔
      ∀ sent ∈ (d.buckets.queuePacket id packet).2, d.Leaves sent := by
  have few := (Tbfs.tbfQueuePacket_length d.buckets.queue_le id
    ⟨packet.payload.length + 4, packet⟩).2
  exact d.foldl_deliver_once _ (Nat.lt_of_le_of_lt few (by simp [tbfMaxQueue]))

theorem tbfRunQueue_once (d : Downstream) (id : Nat) :
    CountedOnce d (d.tbfRunQueue id) ↔ ∀ sent ∈ (d.buckets.runQueue id).2, d.Leaves sent := by
  have few := (Tbfs.tbfRunQueue_length d.buckets.queue_le id).2
  exact d.foldl_deliver_once _ (Nat.lt_of_le_of_lt few (by simp [tbfMaxQueue]))

/-- What the master lets go when a throttled packet comes, leaves. -/
def ThrottledOnce (d : Downstream) (id : Nat) (packet : TunPacket) : Prop :=
  d.iamMaster = true → ∀ sent ∈ (d.buckets.queuePacket id packet).2, d.Leaves sent

theorem throttle_once (d : Downstream) (id : Nat) (packet : TunPacket) :
    CountedOnce d (d.throttle id packet) ↔ d.ThrottledOnce id packet := by
  rw [throttle, ThrottledOnce]
  split_ifs with master
  · rw [tbfQueuePacket_once]
    exact ⟨fun leaves _ => leaves, fun leaves => leaves master⟩
  · exact iff_of_true (d.emit_once fun _ => rfl) fun other => absurd other master

/-- The master handles the packet instead of a slave, or it is dropped for want of an open link. -/
def Elsewhere (d : Downstream) (s : Nat) : Prop :=
  (d.session s).walledGarden = true ∧ d.iamMaster = false ∨
    d.isBundled s = true ∧ (d.iamMaster = false ∨ d.openLinks (d.session s).bundle = [])

/-- A packet that `processipout` has let through is counted once. -/
def ForwardedOnce (d : Downstream) (s : Nat) (packet : TunPacket) : Prop :=
  if d.isThrottled s packet.payload then
    d.ThrottledOnce (d.session s).tbfOut { packet with payload := adjustMss d.mss packet.payload }
  else d.Elsewhere s

theorem forwardOut_once {s : Nat} {packet : TunPacket} (short : packet.payload.length < maxEther) :
    CountedOnce d (d.forwardOut s packet) ↔ d.ForwardedOnce s packet := by
  rw [forwardOut, ForwardedOnce]
  dsimp only
  by_cases throttled : d.isThrottled s packet.payload = true
  · rw [if_pos throttled, if_pos throttled, throttle_once]
  rw [if_neg throttled, if_neg throttled, Elsewhere]
  by_cases garden : (d.session s).walledGarden = true ∧ ¬ d.iamMaster = true
  · rw [if_pos garden]
    exact iff_of_true (d.emit_once fun _ => rfl)
      (.inl ⟨garden.1, Bool.eq_false_iff.mpr garden.2⟩)
  rw [if_neg garden]
  by_cases slave : d.isBundled s = true ∧ ¬ d.iamMaster = true
  · rw [if_pos slave]
    exact iff_of_true (d.emit_once fun _ => rfl)
      (.inr ⟨slave.1, .inl (Bool.eq_false_iff.mpr slave.2)⟩)
  rw [if_neg slave]
  by_cases closed : d.isBundled s = true ∧ d.openLinks (d.session s).bundle = []
  · rw [sendDirectly]
    dsimp only
    rw [if_pos closed.1, if_pos (by rw [closed.2]; exact Nat.one_pos)]
    exact iff_of_true (.refl d) (.inr ⟨closed.1, .inr closed.2⟩)
  · obtain ⟨last, ends, tallies⟩ := @sendDirectly_tallies d
      (placed (adjustMss d.mss packet.payload)) s packet.payload.length short
      fun bundled none => closed ⟨bundled, none⟩
    have few : packet.payload.length + 2 + 1 < 2 ^ 32 := by
      have ether : maxEther = 2618 := rfl
      omega
    generalize d.sendDirectly _ packet.payload.length s = result at ends tallies ⊢
    obtain ⟨sent, _⟩ := result
    obtain rfl : _ = some last := ends
    refine iff_of_false (tallies.countSession_not_counted few last _) ?_
    rintro (⟨walled, other⟩ | ⟨bundled, other | none⟩)
    · exact garden ⟨walled, Bool.eq_false_iff.mp other⟩
    · exact slave ⟨bundled, Bool.eq_false_iff.mp other⟩
    · exact closed ⟨bundled, none⟩

/-- There were too many packets to the session in this tenth of a second. -/
def Limited (d : Downstream) (s : Nat) : Prop :=
  0 < d.maxPackets ∧ (d.sessLocal s).lastPacketOut = d.time ∧
    d.outLimit s < ((d.sessLocal s).packetsOut + 1).toNat

theorem limitPackets_eq (d : Downstream) (s : Nat) :
    (∃ own, (d.limitPackets s).1 = d.setLocal s own ∧ own.usage = (d.sessLocal s).usage) ∧
      ((d.limitPackets s).2 = true ↔ d.Limited s) := by
  rw [limitPackets, Limited]
  dsimp only
  split_ifs with limits again many
  · exact ⟨⟨_, rfl, rfl⟩, iff_of_true rfl ⟨limits, again, many⟩⟩
  · exact ⟨⟨_, rfl, rfl⟩, iff_of_false nofun fun all => many all.2.2⟩
  · exact ⟨⟨_, rfl, rfl⟩, iff_of_false nofun fun all => again all.2.1⟩
  · refine ⟨⟨d.sessLocal s, ?_, rfl⟩, iff_of_false nofun fun all => limits all.1⟩
    rw [setLocal, update_eq_self]

theorem setLocal_same (d : Downstream) (s : Nat) {own : OutLocal}
    (usage : own.usage = (d.sessLocal s).usage) : Same d (d.setLocal s own) := by
  refine ⟨fun _ => rfl, fun t => ?_, rfl⟩
  rw [setLocal]
  dsimp only
  by_cases here : t = s
  · rw [here, update_self]
    exact usage
  · rw [update_of_ne here]

/-- The packet is for a session, and it passes the checks of `processipout`. -/
structure Accepts (d : Downstream) (s : Nat) (buf : List UInt8) : Prop where
  session : s ≠ 0
  long : minIpSize ≤ buf.length + 4
  short : buf.length + 4 < maxEther
  version : byteAt buf 0 / 16 = 4
  mru : buf.length ≤ (d.session s).mru
  mrru : (d.session s).mrru ≠ 0 → buf.length ≤ (d.session s).mrru
  limit : ¬ d.Limited s
  filter : (d.session s).filterOut ≠ 0 →
    ipFilter (d.filterRules ((d.session s).filterOut - 1)) buf = true

/-- The packet is for a session. -/
structure AcceptsV6 (d : Downstream) (buf : List UInt8) : Prop where
  session : d.sessionOf buf ≠ 0
  long : minIpSize ≤ buf.length + 4
  short : buf.length + 4 < maxEther
  version : byteAt buf 0 / 16 = 6

/-- An IPv6 packet to a session is counted once. -/
def ForwardedOnceV6 (d : Downstream) (s : Nat) (packet : TunPacket) : Prop :=
  if (d.session s).tbfOut ≠ 0 then d.ThrottledOnce (d.session s).tbfOut packet
  else (d.session s).walledGarden = true ∧ d.iamMaster = false ∨
    Reaches d.encap.links s packet.payload.length

/-- A packet is not one that `processipout` sends by itself, and where a single frame is sent, its
tunnel has another end. -/
def Countable (d : Downstream) : Call → Prop
  | .processipout packet =>
      let s := d.sessionbyip (word packet.payload 16)
      d.Accepts s packet.payload → d.ForwardedOnce s packet
  | .processipv6out packet =>
      d.AcceptsV6 packet.payload →
        d.ForwardedOnceV6 (d.linkFor (d.sessionOf packet.payload)).2 packet
  | .sendIpout s packet => d.Leaves ⟨s, .outward, packet⟩
  | .tbfRunQueue id => ∀ sent ∈ (d.buckets.runQueue id).2, d.Leaves sent

theorem hostUnreachable_once (d : Downstream) (buf : List UInt8) :
    CountedOnce d (d.hostUnreachable buf) := by
  rw [hostUnreachable]
  generalize new_second : (if d.last ≠ d.timeNow then { d with last := d.timeNow, rate := 0 }
    else d) = fresh
  have same : Same d fresh := by
    rw [← new_second]
    split_ifs
    all_goals exact ⟨fun _ => rfl, fun _ => rfl, rfl⟩
  have counted : Same d { fresh with rate := fresh.rate + 1 } :=
    ⟨same.traffic, same.usage, same.log⟩
  split_ifs
  · exact counted.countedOnce_iff.mpr (emit_once _ fun _ => rfl)
  · exact counted.countedOnce_iff.mpr (.refl _)

theorem processipout_once (d : Downstream) (packet : TunPacket) :
    CountedOnce d (d.processipout packet) ↔ d.Countable (.processipout packet) := by
  rw [processipout, Countable]
  dsimp only
  generalize d.sessionbyip (word packet.payload 16) = s
  by_cases short : packet.payload.length + 4 < minIpSize
  · rw [if_pos short]
    exact iff_of_true (.refl d) fun accepts => absurd short (Nat.not_lt.mpr accepts.long)
  by_cases long : maxEther ≤ packet.payload.length + 4
  · rw [if_neg short, if_pos long]
    exact iff_of_true (.refl d) fun accepts => absurd long (Nat.not_le.mpr accepts.short)
  by_cases other : byteAt packet.payload 0 / 16 ≠ 4
  · rw [if_neg short, if_neg long, if_pos other]
    exact iff_of_true (.refl d) fun accepts => absurd accepts.version other
  rw [if_neg short, if_neg long, if_neg other]
  by_cases none : s = 0
  · rw [if_pos none]
    exact iff_of_true (d.hostUnreachable_once _) fun accepts => absurd none accepts.session
  by_cases large : (d.session s).mru < packet.payload.length ∨
      (d.session s).mrru ≠ 0 ∧ (d.session s).mrru < packet.payload.length
  · rw [if_neg none, if_pos large]
    refine iff_of_true (.refl d) fun accepts => ?_
    rcases large with large | ⟨set, large⟩
    · exact absurd large (Nat.not_lt.mpr accepts.mru)
    · exact absurd large (Nat.not_lt.mpr (accepts.mrru set))
  rw [if_neg none, if_neg large]
  obtain ⟨⟨own, counted, usage⟩, dropped⟩ := d.limitPackets_eq s
  have same := d.setLocal_same s usage
  generalize d.limitPackets s = result at counted dropped ⊢
  obtain ⟨base, drop⟩ := result
  obtain rfl : base = d.setLocal s own := counted
  dsimp only at dropped ⊢
  by_cases limited : d.Limited s
  · rw [if_pos (dropped.mpr limited)]
    exact iff_of_true (same.countedOnce_iff.mpr (.refl _)) fun accepts =>
      absurd limited accepts.limit
  rw [if_neg fun drops => limited (dropped.mp drops)]
  by_cases filtered : (d.session s).filterOut ≠ 0 ∧
      ¬ ipFilter (d.filterRules ((d.session s).filterOut - 1)) packet.payload = true
  · rw [if_pos filtered]
    exact iff_of_true (same.countedOnce_iff.mpr (.refl _)) fun accepts =>
      absurd (accepts.filter filtered.1) filtered.2
  rw [if_neg filtered, same.countedOnce_iff, forwardOut_once (by omega)]
  have accepts : d.Accepts s packet.payload := by
    refine ⟨none, Nat.not_lt.mp short, Nat.not_le.mp long, not_not.mp other, ?_, ?_, limited, ?_⟩
    · exact Nat.not_lt.mp fun more => large (.inl more)
    · exact fun set => Nat.not_lt.mp fun more => large (.inr ⟨set, more⟩)
    · exact fun set => not_not.mp fun refuses => filtered ⟨set, refuses⟩
  exact ⟨fun once _ => once, fun once => once accepts⟩

theorem linkFor_same (d : Downstream) (s : Nat) : Same d (d.linkFor s).1 ∧
    (d.linkFor s).1.session = d.session ∧ (d.linkFor s).1.encap = d.encap ∧
      (d.linkFor s).1.buckets = d.buckets ∧ (d.linkFor s).1.iamMaster = d.iamMaster := by
  rw [linkFor]
  split_ifs
  all_goals exact ⟨⟨fun _ => rfl, fun _ => rfl, rfl⟩, rfl, rfl, rfl, rfl⟩

theorem touch_same (d : Downstream) (s : Nat) : Same d (d.touch s) := by
  refine ⟨fun t => ?_, fun _ => rfl, rfl⟩
  rw [touch, setSession]
  dsimp only
  by_cases here : t = s
  · rw [here, update_self]
  · rw [update_of_ne here]

theorem touch_session (d : Downstream) (s : Nat) :
    (d.touch s).session s = { d.session s with lastData := d.timeNow } := by
  rw [touch, setSession]
  exact update_self ..

theorem throttledOnce_congr (keeps : Keeps d base)
    (buckets : base.buckets = d.buckets) (master : base.iamMaster = d.iamMaster) (id : Nat)
    (packet : TunPacket) : base.ThrottledOnce id packet ↔ d.ThrottledOnce id packet := by
  simp only [ThrottledOnce, buckets, master, keeps.leaves]

theorem processipv6out_once (d : Downstream) (packet : TunPacket) :
    CountedOnce d (d.processipv6out packet) ↔ d.Countable (.processipv6out packet) := by
  rw [processipv6out, Countable]
  dsimp only
  by_cases short : packet.payload.length + 4 < minIpSize
  · rw [if_pos short]
    exact iff_of_true (.refl d) fun accepts => absurd short (Nat.not_lt.mpr accepts.long)
  by_cases long : maxEther ≤ packet.payload.length + 4
  · rw [if_neg short, if_pos long]
    exact iff_of_true (.refl d) fun accepts => absurd long (Nat.not_le.mpr accepts.short)
  by_cases other : byteAt packet.payload 0 / 16 ≠ 6
  · rw [if_neg short, if_neg long, if_pos other]
    exact iff_of_true (.refl d) fun accepts => absurd accepts.version other
  by_cases none : d.sessionOf packet.payload = 0
  · rw [if_neg short, if_neg long, if_neg other, if_pos none]
    exact iff_of_true (.refl d) fun accepts => absurd none accepts.session
  rw [if_neg short, if_neg long, if_neg other, if_neg none]
  have accepts : d.AcceptsV6 packet.payload :=
    ⟨none, Nat.not_lt.mp short, Nat.not_le.mp long, not_not.mp other⟩
  obtain ⟨turned, session, encap, buckets, master⟩ := d.linkFor_same (d.sessionOf packet.payload)
  generalize d.linkFor (d.sessionOf packet.payload) = result
    at turned session encap buckets master ⊢
  obtain ⟨base, s⟩ := result
  dsimp only at turned session encap buckets master ⊢
  have keeps : Keeps d (base.touch s) := by
    refine Keeps.trans ⟨by rw [encap], fun t => by rw [session]⟩
      (setSession_keeps base s rfl)
  have links : (base.touch s).encap.links = d.encap.links := keeps.links
  rw [turned.countedOnce_iff, (base.touch_same s).countedOnce_iff, touch_session, ForwardedOnceV6,
    session]
  dsimp only
  refine Iff.trans ?_ (show _ ↔ _ from ⟨fun once _ => once, fun once => once accepts⟩)
  by_cases throttled : (d.session s).tbfOut ≠ 0
  · rw [if_pos throttled, if_pos throttled, throttle_once]
    exact throttledOnce_congr keeps buckets master _ packet
  rw [if_neg throttled, if_neg throttled]
  by_cases garden : (d.session s).walledGarden = true ∧ ¬ d.iamMaster = true
  · rw [if_pos garden]
    exact iff_of_true (emit_once _ fun _ => rfl) (.inl ⟨garden.1, Bool.eq_false_iff.mpr garden.2⟩)
  rw [if_neg garden]
  have ether : maxEther = 2618 := rfl
  obtain ⟨made, _, counts⟩ := @sendCopy_counts (base.touch s) (placed packet.payload) bufAt
    packet.payload.length s pppIpv6 (by omega)
  rw [if_pos made]
  rw [links] at counts
  constructor
  · intro once
    refine .inr (not_not.mp fun lost => ?_)
    obtain ⟨sent, tally, _, none_sent⟩ := counts s
    rw [none_sent lost, seen, if_pos rfl] at tally
    exact tally.not_counted Nat.one_pos (by simp) once
  · rintro (walled | reaches)
    · exact absurd ⟨walled.1, Bool.eq_false_iff.mp walled.2⟩ garden
    · refine countedOnce_of_tally fun t =>
        ⟨seen t s packet.payload.length, ?_, seen_small (by omega)⟩
      obtain ⟨sent, tally, all, _⟩ := counts t
      rwa [all reaches] at tally

end Downstream

/-- **Downstream traffic is counted once exactly where `processipout` does not send a packet by
itself, and where what is sent in a single frame has another end to go to.** -/
theorem downstream_counted_iff (d : Downstream) (call : Call) :
    CountedOnce d (d.run call) ↔ d.Countable call := by
  cases call with
  | processipout packet => exact d.processipout_once packet
  | processipv6out packet => exact d.processipv6out_once packet
  | sendIpout s packet =>
      have few : [(⟨s, .outward, packet⟩ : Sent TunPacket)].length < 2 ^ 32 := by simp
      have once := d.foldl_deliver_once d.buckets few
      rw [List.foldl_cons, List.foldl_nil, List.forall_mem_singleton] at once
      exact once
  | tbfRunQueue id => exact d.tbfRunQueue_once id

/-- A master with sessions outside of bundles, which no bucket is for. -/
def serving : Downstream where
  encap := { Encap.bonded false with bundle := fun _ => ⟨0, 0⟩ }
  links_lt _ := Nat.succ_pos _
  session _ := ⟨1, 1500, 0, 0, 0, 0, 0, false, .opened, 0, ⟨0, 0, 0, 0⟩⟩
  sessLocal _ := ⟨0, 0, 0, .zero⟩
  members _ _ := 0
  currentSes _ := 0
  buckets := ⟨⟨0, fun _ => .empty, [], 0, 0⟩, fun _ => Nat.zero_le _⟩
  sessionbyip _ := 2
  sessionbyipv6 _ := 2
  sessionbyipv6new _ := 2
  filterRules _ := []
  maxPackets := 0
  noThrottleLocalIp := false
  iamMaster := true
  mss := 0
  icmpRate := 0
  rate := 0
  last := 0
  time := 0
  timeNow := 0
  log := []

/-- An IPv4 packet of 28 bytes. -/
def datagram : TunPacket := ⟨⟨#[0, 0, 0x08, 0x00], rfl⟩, 0x45 :: List.replicate 27 0⟩

/-- It is counted twice in the session, and once for the master. -/
theorem serving_counts_twice :
    ¬ CountedOnce serving (serving.run (.processipout datagram)) := by
  intro once
  have accepts : serving.Accepts 2 datagram.payload := by
    refine ⟨by simp, ?_, ?_, ?_, ?_, fun set => absurd rfl set, fun limited => ?_, fun set => ?_⟩
    · simp [datagram, minIpSize]
    · simp [datagram, maxEther]
    · simp [datagram, byteAt]
    · simp [datagram, serving]
    · exact absurd limited.1 (Int.lt_irrefl 0)
    · exact absurd rfl set
  have forwarded := (serving.processipout_once datagram).mp once accepts
  simp [Downstream.ForwardedOnce, Downstream.isThrottled, Downstream.Elsewhere,
    Downstream.isBundled, serving] at forwarded

end L2tpns.Billing
