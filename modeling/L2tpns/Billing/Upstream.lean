import L2tpns.Billing.Downstream
import L2tpns.Multilink.Bounds

/-! # Counting of packets from users

A packet of a user comes in a frame of its own, or in fragments over the links of a bundle that are
put together again. When it goes on to the network it is counted: outside of bundles in the session
that it came from, and in a bundle in the sessions of the fragments that the ring of the bundle was
last read for. A packet that was throttled is counted in the session of its bucket.

Each session counts exactly the bytes that it delivered of the packets that are forwarded, in every
run in which no packet of a bundle is forwarded that came whole, and none is throttled that came in
fragments (`L2tpns.Billing.upstream_counted`).
-/

namespace L2tpns.Billing

open Function

open Avp (Memory readBytes writeBytes)
open Cluster.Bytes (Traffic Usage)
open Foundation
open Multilink (Fragment Fragmentation Handed Index Placed Receiver Search masked maxFragNum mpEnd
  place searchLoop span Stores)
open Server (Datagram Gateway pppIpv6)
open Server.Throttle (Sent Tbf Tbfs)
open Server.Throttle.Tbfs (Fit Fits)

/-- Bytes that a session delivered in one frame. -/
structure Piece where
  session : Nat
  bytes : List UInt8

/-- What was received of a packet, and the pieces that it came in. -/
structure Origin where
  frame : List UInt8
  pieces : List Piece

/-- A packet with the header of the device, in a bucket. -/
structure Throttled where
  packet : List UInt8
  origin : Origin

/-- The tables, the rings and the counters. The device takes the packets for which `tun` is set.
What was received and what went on is recorded. -/
structure Upstream where
  gateway : Gateway
  littleEndian : Bool
  receiver : Receiver
  traffic : Nat → Traffic
  usage : Nat → Usage
  tbfs : Tbfs Throttled
  tun : Nat → Bool
  writes : Nat
  received : List Piece
  forwarded : List Origin

/-- The bytes of a packet, without a header of the device. -/
def bytesOf : Datagram → List UInt8
  | .ipv4 p => p
  | .ipv6 p => p

namespace Upstream

variable (u : Upstream)

def bundleOf (s : Nat) : Nat := (u.gateway.st.session s).bundle

/-- What `processmpin` reads of the tables. -/
def links : Multilink.Links where
  bundleOf := u.bundleOf
  bundle b :=
    let bundle := u.gateway.st.bundle b
    ⟨UInt32.ofNat bundle.maxSeq, bundle.numOfLinks, bundle.members⟩
  littleEndian := u.littleEndian

/-- `cin` with its wraps, `cin_delta` and `pin`, and what is kept to send to the master. -/
def count (s l : Nat) : Upstream :=
  let usage := u.usage s
  { u with
    traffic := Function.update u.traffic s ((u.traffic s).add ⟨1, UInt32.ofNat l⟩)
    usage := Function.update u.usage s ⟨usage.packets + 1, usage.bytes + UInt32.ofNat l⟩ }

/-- Count `l` bytes of a session outside of bundles, and else the fragments of the frame that was
last put together in its bundle. -/
def updateSessionsInStat (s l : Nat) : Upstream :=
  if u.bundleOf s = 0 then u.count s l
  else
    let ring := u.receiver.frag (u.bundleOf s)
    (span ring.reFrameBeginIndex ring.reFrameEndIndex).foldl
      (fun u i => u.count (ring.fragment i).sid (ring.fragment i).length) u

/-- The device took a packet. -/
def wrote (origin : Origin) : Upstream :=
  { u with writes := u.writes + 1, forwarded := u.forwarded ++ [origin] }

/-- Write a packet to the device, which may fail. -/
def tunWrite (origin : Origin) : Upstream × Bool :=
  if u.tun u.writes then (u.wrote origin, true)
  else ({ u with writes := u.writes + 1 }, false)

/-- `send_ipin`. -/
def sendIpin (s : Nat) (throttled : Throttled) : Upstream :=
  let (written, taken) := u.tunWrite throttled.origin
  if taken then written.count s (throttled.packet.length - 4) else written

/-- What a bucket lets go is sent to the network, or goes to a user and is not counted here. -/
def release (sent : Sent Throttled) : Upstream :=
  match sent.direction with
  | .inward => u.sendIpin sent.sid sent.data
  | .outward => u

/-- `tbf_queue_packet`. -/
def tbfQueuePacket (id : Nat) (throttled : Throttled) : Upstream :=
  let (tbfs, sent) := u.tbfs.tbfQueuePacket id ⟨throttled.packet.length, throttled⟩
  sent.foldl release { u with tbfs := tbfs }

/-- `tbf_run_queue`. -/
def tbfRunQueue (id : Nat) : Upstream :=
  let (tbfs, sent) := u.tbfs.tbfRunQueue id
  sent.foldl release { u with tbfs := tbfs }

/-- `processipin` and `processipv6in`, with where the packet came from. -/
def process (s : Nat) (datagram : Datagram) (origin : Origin) : Upstream :=
  match u.gateway.receive s datagram with
  | .sent _ =>
      let (written, taken) := u.tunWrite origin
      if taken then written.updateSessionsInStat s (bytesOf datagram).length else written
  | .queued id packet => u.tbfQueuePacket id ⟨packet, origin⟩
  | _ => u

/-- The PPP protocol of a reassembled frame, which may be compressed to one byte, and what is
behind it. A frame that ends before is taken for one of 65535 bytes, which is too long. -/
def protocolOf : List UInt8 → Option (Nat × List UInt8)
  | [] => none
  | first :: rest =>
      if first &&& 1 ≠ 0 then some (first.toNat, rest)
      else
        match rest with
        | [] => none
        | second :: rest => some (first.toNat * 2 ^ 8 + second.toNat, rest)

/-- The packet in a reassembled frame. Frames of the control protocols have none. -/
def packetIn (s : Nat) (frame : List UInt8) : Option Datagram :=
  match protocolOf frame with
  | none => none
  | some (proto, payload) =>
      let closing := decide ((u.gateway.st.session s).die ≠ 0)
      if proto = pppIp then if closing then none else some (.ipv4 payload)
      else if proto = pppIpv6 ∧ u.gateway.st.config.ipv6Prefix.getD 0 0 ≠ 0 then
        if closing then none else some (.ipv6 payload)
      else none

/-- The pieces of a frame in the ring. -/
def piecesOf (ring : Fragmentation) (first last : Index) : List Piece :=
  (span first last).map fun i =>
    ⟨(ring.fragment i).sid, (ring.fragment i).data.take (ring.fragment i).length⟩

/-- `processmpframe`, for a frame that was put together in bundle `b`. -/
def processmpframe (b s : Nat) (frame : Handed) : Upstream :=
  let ring := frame.ring
  let bytes := readBytes ring.reassembledFrame 4 (frame.length - 4)
  let put := { u with
    receiver := { u.receiver with frag := Function.update u.receiver.frag b ring } }
  match put.packetIn s bytes with
  | none => put
  | some datagram =>
      put.process s datagram ⟨bytes, piecesOf ring ring.reFrameBeginIndex ring.reFrameEndIndex⟩

/-- A frame that came whole. -/
def receiveWhole (s : Nat) (datagram : Datagram) : Upstream :=
  let piece : Piece := ⟨s, bytesOf datagram⟩
  { u with received := u.received ++ [piece] }.process s datagram ⟨bytesOf datagram, [piece]⟩

/-- The search of `processmpin` has come to its end. -/
def receiveFragment (s : Nat) (memory : Memory) (p l : Nat) (placed : Placed)
    (handed : List Handed) (ring : Fragmentation) : Upstream :=
  let b := u.bundleOf s
  let noted := { u with
    received := u.received ++ [Piece.mk s (readBytes memory (p + 4) (l - 4))]
    receiver := { u.receiver with lastSeq := placed.lastSeq } }
  let done := handed.foldl (fun u frame => u.processmpframe b s frame) noted
  { done with receiver := { done.receiver with frag := Function.update done.receiver.frag b ring } }

end Upstream

/-- What happens: a packet or a fragment is received, the timer runs a bucket, a bucket is taken or
given back, or a bundle is taken into use. Meanwhile anything may change the tables. -/
inductive Event where
  | whole (s : Nat) (datagram : Datagram)
  | fragment (s t : Nat) (memory : Memory) (p l : Nat)
  | runQueue (id : Nat)
  | newTbf (sid : Nat) (maxCredit rate : Int) (send : Server.Throttle.Direction)
  | freeTbf (id : Nat)
  | newBundle (b : Nat)
  | change (gateway : Gateway) (lastSeq : Nat → UInt32) (time : Int)

/-- A step of the server. `processmpin` returns with the frames that it handed on. -/
inductive Event.Performs (u : Upstream) : Event → Upstream → Prop where
  | whole (s : Nat) (datagram : Datagram) :
      Performs u (.whole s datagram) (u.receiveWhole s datagram)
  | fragment (s t : Nat) (memory : Memory) (p l : Nat) {final : Search}
      (goesOn : (place u.links u.receiver s t memory p l).goesOn = true)
      (reached : (searchLoop (place u.links u.receiver s t memory p l).mMin).Reaches
        (place u.links u.receiver s t memory p l).search final)
      (finished : final.place = .finished) :
      Performs u (.fragment s t memory p l) (u.receiveFragment s memory p l
        (place u.links u.receiver s t memory p l) final.handed final.ring)
  | placed (s t : Nat) (memory : Memory) (p l : Nat)
      (stops : (place u.links u.receiver s t memory p l).goesOn = false) :
      Performs u (.fragment s t memory p l) (u.receiveFragment s memory p l
        (place u.links u.receiver s t memory p l) []
        (place u.links u.receiver s t memory p l).ring)
  | runQueue (id : Nat) (timed : id ∈ u.tbfs.timerChain) :
      Performs u (.runQueue id) (u.tbfRunQueue id)
  | newTbf (sid : Nat) (maxCredit rate : Int) (send : Server.Throttle.Direction) :
      Performs u (.newTbf sid maxCredit rate send)
        { u with tbfs := (u.tbfs.newTbf sid maxCredit rate send).1 }
  | freeTbf (id : Nat) : Performs u (.freeTbf id) { u with tbfs := u.tbfs.freeTbf id }
  | newBundle (b : Nat) :
      Performs u (.newBundle b)
        { u with receiver := { u.receiver with
            frag := Function.update u.receiver.frag b .zero } }
  | change (gateway : Gateway) (lastSeq : Nat → UInt32) (time : Int) :
      Performs u (.change gateway lastSeq time)
        { u with
          gateway := gateway
          receiver := { u.receiver with lastSeq := lastSeq }
          tbfs := { u.tbfs with time := time } }

/-- Nothing is received or queued yet; the counters are any. -/
structure Upstream.Starts (u : Upstream) (traffic : Nat → Traffic) (usage : Nat → Usage) :
    Prop where
  traffic : u.traffic = traffic
  usage : u.usage = usage
  rings : u.receiver.frag = fun _ => .zero
  queues : ∀ id, (u.tbfs.bucket id).queue = []
  timer : u.tbfs.timerChain = []
  forwarded : u.forwarded = []

def upstreamSystem (traffic : Nat → Traffic) (usage : Nat → Usage) :
    TransitionSystem Upstream Event where
  initial u := u.Starts traffic usage
  step := fun u event next => event.Performs u next

/-- The lengths of the pieces that a session delivered. -/
def shares (s : Nat) (pieces : List Piece) : List Nat :=
  (pieces.filter fun piece => piece.session = s).map fun piece => piece.bytes.length

/-- The bytes that a session delivered of the packets that went on. -/
def Upstream.delivered (u : Upstream) (s : Nat) : List Nat :=
  shares s (u.forwarded.flatMap Origin.pieces)

/-- A packet that went on was received in its pieces. -/
structure Origin.Received (origin : Origin) (received : List Piece) : Prop where
  whole : origin.frame = origin.pieces.flatMap Piece.bytes
  pieces : ∀ piece ∈ origin.pieces, piece ∈ received

/-- Each session is billed for what it delivered of the packets that went on. -/
structure CountedFrom (traffic : Nat → Traffic) (usage : Nat → Usage) (u : Upstream) : Prop where
  received : ∀ origin ∈ u.forwarded, origin.Received u.received
  billed : ∀ s, Billed (u.delivered s) (traffic s) (u.traffic s) (usage s) (u.usage s)

/-- The bucket sends to the network for session `s`, if it does for a session. -/
def OwnBucket (tbfs : Tbfs Throttled) (id s : Nat) : Prop :=
  (tbfs.bucket id).sid ≠ 0 → (tbfs.bucket id).send = some .inward → (tbfs.bucket id).sid = s

/-- No packet is forwarded that came whole on a session in a bundle, none is throttled that came in
fragments, and other packets that are throttled go through buckets of their sessions. Fragments
have a byte behind their header. -/
def Event.Attributed (u : Upstream) : Event → Prop
  | .whole s datagram =>
      (∀ packet, u.gateway.receive s datagram = .sent packet → u.tun u.writes = true →
        u.bundleOf s = 0) ∧
      ∀ id packet, u.gateway.receive s datagram = .queued id packet → OwnBucket u.tbfs id s
  | .fragment s t memory p l =>
      (Stores u.links u.receiver s memory p l → 5 ≤ l) ∧
      ∀ search, (searchLoop (place u.links u.receiver s t memory p l).mMin).Reaches
        (place u.links u.receiver s t memory p l).search search →
        ∀ frame ∈ search.handed, ∀ datagram,
          u.packetIn s (readBytes frame.ring.reassembledFrame 4 (frame.length - 4)) =
            some datagram → ∀ id packet, u.gateway.receive s datagram ≠ .queued id packet
  | _ => True

theorem shares_append (s : Nat) (pieces more : List Piece) :
    shares s (pieces ++ more) = shares s pieces ++ shares s more := by
  rw [shares, List.filter_append, List.map_append]
  rfl

theorem shares_cons (s : Nat) (piece : Piece) (rest : List Piece) :
    shares s (piece :: rest) = seen s piece.session piece.bytes.length ++ shares s rest := by
  rw [shares, seen]
  by_cases here : piece.session = s
  · rw [List.filter_cons_of_pos (by simpa using here), if_pos here]
    rfl
  · rw [List.filter_cons_of_neg (by simpa using here), if_neg here]
    rfl

/-- The counters move by the pieces of each session. -/
def Moves (u next : Upstream) (pieces : List Piece) : Prop :=
  ∀ s, next.traffic s = countAll (u.traffic s) (shares s pieces) ∧
    next.usage s = useAll (u.usage s) (shares s pieces)

variable {u middle next : Upstream} {traffic : Nat → Traffic} {usage : Nat → Usage} {s l b : Nat}
  {pieces more : List Piece} {received : List Piece} {origin : Origin} {ring : Fragmentation}
  {throttled : Throttled} {datagram : Datagram}

theorem Moves.trans (first : Moves u middle pieces) (second : Moves middle next more) :
    Moves u next (pieces ++ more) := by
  intro s
  rw [(second s).1, (second s).2, (first s).1, (first s).2, shares_append]
  exact ⟨(List.foldl_append ..).symm, (List.foldl_append ..).symm⟩

theorem count_moves (u : Upstream) (piece : Piece) :
    Moves u (u.count piece.session piece.bytes.length) [piece] := by
  intro s
  rw [shares_cons, seen, Upstream.count]
  dsimp only
  by_cases here : piece.session = s
  · rw [if_pos here, here, update_self, update_self]
    exact ⟨rfl, rfl⟩
  · rw [if_neg here, update_of_ne (Ne.symm here), update_of_ne (Ne.symm here)]
    exact ⟨rfl, rfl⟩

theorem countSpan_moves (u : Upstream) {indexes : List Index}
    (sound : ∀ i ∈ indexes, (ring.fragment i).Sound) :
    Moves u (indexes.foldl (fun u i => u.count (ring.fragment i).sid (ring.fragment i).length) u)
      (indexes.map fun i =>
        ⟨(ring.fragment i).sid, (ring.fragment i).data.take (ring.fragment i).length⟩) := by
  induction indexes generalizing u with
  | nil => exact fun _ => ⟨rfl, rfl⟩
  | cons i rest ih =>
      have first := count_moves u
        ⟨(ring.fragment i).sid, (ring.fragment i).data.take (ring.fragment i).length⟩
      dsimp only at first
      rw [List.length_take_of_le (sound i (List.mem_cons_self ..)).copied] at first
      exact first.trans (ih _ fun j member => sound j (List.mem_cons_of_mem _ member))

/-- Counting changes nothing but the counters. -/
structure OnlyCounts (u next : Upstream) : Prop where
  gateway : next.gateway = u.gateway
  receiver : next.receiver = u.receiver
  tbfs : next.tbfs = u.tbfs
  received : next.received = u.received

theorem OnlyCounts.trans (first : OnlyCounts u middle) (second : OnlyCounts middle next) :
    OnlyCounts u next :=
  ⟨second.gateway.trans first.gateway, second.receiver.trans first.receiver,
    second.tbfs.trans first.tbfs, second.received.trans first.received⟩

theorem foldl_count_only (u : Upstream) (indexes : List Index) :
    OnlyCounts u (indexes.foldl
      (fun u i => u.count (ring.fragment i).sid (ring.fragment i).length) u) ∧
      (indexes.foldl (fun u i => u.count (ring.fragment i).sid (ring.fragment i).length)
        u).forwarded = u.forwarded := by
  induction indexes generalizing u with
  | nil => exact ⟨⟨rfl, rfl, rfl, rfl⟩, rfl⟩
  | cons i rest ih =>
      have first : OnlyCounts u (u.count (ring.fragment i).sid (ring.fragment i).length) :=
        ⟨rfl, rfl, rfl, rfl⟩
      obtain ⟨only, same⟩ := ih (u.count (ring.fragment i).sid (ring.fragment i).length)
      exact ⟨first.trans only, same⟩

/-- What went on is counted, and was received. -/
structure Ledger (traffic : Nat → Traffic) (usage : Nat → Usage) (u : Upstream) : Prop where
  traffic : ∀ s, u.traffic s = countAll (traffic s) (u.delivered s)
  usage : ∀ s, u.usage s = useAll (usage s) (u.delivered s)
  received : ∀ origin ∈ u.forwarded, origin.Received u.received
  small : ∀ origin ∈ u.forwarded, ∀ piece ∈ origin.pieces, piece.bytes.length < 2 ^ 32

theorem Origin.Received.mono {received more : List Piece} (known : origin.Received received)
    (kept : received ⊆ more) : origin.Received more :=
  ⟨known.whole, fun piece member => kept (known.pieces piece member)⟩

theorem whole_received {bytes : List UInt8} (known : (⟨s, bytes⟩ : Piece) ∈ received) :
    (⟨bytes, [⟨s, bytes⟩]⟩ : Origin).Received received := by
  refine ⟨(List.append_nil _).symm, fun piece member => ?_⟩
  rwa [List.mem_singleton.mp member]

namespace Ledger

theorem same (ledger : Ledger traffic usage u) (counters : next.traffic = u.traffic)
    (own : next.usage = u.usage) (forwarded : next.forwarded = u.forwarded)
    (received : u.received ⊆ next.received) : Ledger traffic usage next where
  traffic s := by
    rw [counters, Upstream.delivered, forwarded]
    exact ledger.traffic s
  usage s := by
    rw [own, Upstream.delivered, forwarded]
    exact ledger.usage s
  received origin member :=
    (ledger.received origin (forwarded ▸ member)).mono received
  small origin member := ledger.small origin (forwarded ▸ member)

/-- A packet goes on and is counted. -/
theorem forward (ledger : Ledger traffic usage u) (known : origin.Received u.received)
    (small : ∀ piece ∈ origin.pieces, piece.bytes.length < 2 ^ 32)
    (moves : Moves u next origin.pieces) (forwarded : next.forwarded = u.forwarded ++ [origin])
    (received : next.received = u.received) : Ledger traffic usage next := by
  have delivered (s : Nat) : next.delivered s = u.delivered s ++ shares s origin.pieces := by
    rw [Upstream.delivered, forwarded, List.flatMap_append, shares_append, List.flatMap_singleton]
    rfl
  refine ⟨fun s => ?_, fun s => ?_, fun other member => ?_, fun other member => ?_⟩
  · rw [(moves s).1, ledger.traffic, delivered]
    exact (List.foldl_append ..).symm
  · rw [(moves s).2, ledger.usage, delivered]
    exact (List.foldl_append ..).symm
  · rw [received]
    rw [forwarded] at member
    rcases List.mem_append.mp member with old | new
    · exact ledger.received other old
    · rwa [List.mem_singleton.mp new]
  · rw [forwarded] at member
    rcases List.mem_append.mp member with old | new
    · exact ledger.small other old
    · rwa [List.mem_singleton.mp new]

theorem countedFrom (ledger : Ledger traffic usage u) : CountedFrom traffic usage u := by
  refine ⟨ledger.received, fun s => ?_⟩
  have small : ∀ len ∈ u.delivered s, len < 2 ^ 32 := by
    intro len member
    obtain ⟨piece, there, rfl⟩ := List.mem_map.mp member
    obtain ⟨origin, forwarded, inside⟩ := List.mem_flatMap.mp (List.mem_of_mem_filter there)
    exact ledger.small origin forwarded piece inside
  rw [ledger.traffic, ledger.usage]
  exact ⟨countAll_wide _ small, countAll_delta .., countAll_packets .., useAll_bytes ..,
    useAll_packets ..⟩

end Ledger

/-- A packet in a bucket to the network came whole on the session of the bucket. -/
def Own (received : List Piece) (sid : Nat) (send : Option Server.Throttle.Direction)
    (throttled : Throttled) : Prop :=
  send = some .inward → ∃ bytes, throttled.origin = ⟨bytes, [⟨sid, bytes⟩]⟩ ∧
    bytes.length = throttled.packet.length - 4 ∧ bytes.length < 2 ^ 32 ∧
    (⟨sid, bytes⟩ : Piece) ∈ received

theorem Fit.mono {property weaker : Nat → Option Server.Throttle.Direction → Throttled → Prop}
    {tbfs : Tbfs Throttled} (fit : Fit property tbfs)
    (implied : ∀ sid send throttled, property sid send throttled → weaker sid send throttled) :
    Fit weaker tbfs where
  queued id used packet member := implied _ _ _ (fit.queued id used packet member)
  running := fit.running
  once := fit.once

theorem sendIpin_ledger (ledger : Ledger traffic usage u)
    (own : Own u.received s (some .inward) throttled) :
    Ledger traffic usage (u.sendIpin s throttled) ∧ OnlyCounts u (u.sendIpin s throttled) := by
  obtain ⟨bytes, origin, length, small, known⟩ := own rfl
  rw [Upstream.sendIpin, Upstream.tunWrite, ← length]
  dsimp only
  by_cases taken : u.tun u.writes = true
  · rw [if_pos taken]
    have moves := count_moves (u.wrote throttled.origin) ⟨s, bytes⟩
    rw [origin] at moves ⊢
    have alone : (⟨bytes, [⟨s, bytes⟩]⟩ : Origin).Received u.received := whole_received known
    refine ⟨ledger.forward alone (fun piece member => ?_) moves rfl rfl, ⟨rfl, rfl, rfl, rfl⟩⟩
    rwa [List.mem_singleton.mp member]
  · rw [if_neg taken]
    exact ⟨ledger.same rfl rfl rfl (List.Subset.refl _), ⟨rfl, rfl, rfl, rfl⟩⟩

/-- What the buckets let go is counted. -/
theorem foldl_release_ledger {sent : List (Sent Throttled)} (ledger : Ledger traffic usage u)
    (fits : Fits (Own u.received) sent) :
    Ledger traffic usage (sent.foldl Upstream.release u) ∧
      OnlyCounts u (sent.foldl Upstream.release u) := by
  induction sent generalizing u with
  | nil => exact ⟨ledger, rfl, rfl, rfl, rfl⟩
  | cons first rest ih =>
      have one : Ledger traffic usage (u.release first) ∧ OnlyCounts u (u.release first) := by
        have own := fits first (List.mem_cons_self ..)
        obtain ⟨sid, direction, data⟩ := first
        cases direction with
        | inward => exact sendIpin_ledger ledger own
        | outward => exact ⟨ledger, rfl, rfl, rfl, rfl⟩
      have others : Fits (Own (u.release first).received) rest := by
        rw [one.2.received]
        exact fun packet member => fits packet (List.mem_cons_of_mem _ member)
      obtain ⟨counted, only⟩ := ih one.1 others
      exact ⟨counted, one.2.trans only⟩

/-- A fragment that is there was received. -/
def Recorded (received : List Piece) (fragment : Fragment) : Prop :=
  fragment.Sound ∧ (fragment.length ≠ 0 →
    (⟨fragment.sid, fragment.data.take fragment.length⟩ : Piece) ∈ received)

/-- All that is counted was received, and so are the fragments in the rings and the packets in the
buckets. -/
structure Upright (traffic : Nat → Traffic) (usage : Nat → Usage) (u : Upstream) : Prop where
  ledger : Ledger traffic usage u
  rings : ∀ b, (u.receiver.frag b).All (Recorded u.received)
  buckets : Fit (Own u.received) u.tbfs

namespace Upright

theorem receive (upright : Upright traffic usage u) (more : List Piece) :
    Upright traffic usage { u with received := u.received ++ more } where
  ledger := upright.ledger.same rfl rfl rfl (List.subset_append_left ..)
  rings b i :=
    let ⟨sound, known⟩ := upright.rings b i
    ⟨sound, fun present => List.mem_append_left _ (known present)⟩
  buckets := Fit.mono upright.buckets fun sid send throttled own inward => by
    obtain ⟨bytes, origin, length, small, known⟩ := own inward
    exact ⟨bytes, origin, length, small, List.mem_append_left _ known⟩

theorem only {tbfs : Tbfs Throttled} (upright : Upright traffic usage u)
    (ledger : Ledger traffic usage next) (counts : OnlyCounts { u with tbfs := tbfs } next)
    (fit : Fit (Own u.received) tbfs) : Upright traffic usage next where
  ledger := ledger
  rings := by
    rw [counts.receiver, counts.received]
    exact upright.rings
  buckets := by
    rw [counts.tbfs, counts.received]
    exact fit

theorem tbfQueuePacket (upright : Upright traffic usage u) {id : Nat}
    (own : (u.tbfs.bucket id).sid ≠ 0 →
      Own u.received (u.tbfs.bucket id).sid (u.tbfs.bucket id).send throttled) :
    Upright traffic usage (u.tbfQueuePacket id throttled) := by
  obtain ⟨fit, fits⟩ := @Fit.tbfQueuePacket _ u.tbfs (Own u.received) upright.buckets id
    ⟨throttled.packet.length, throttled⟩ fun _ used => own used
  have ledger : Ledger traffic usage { u with
      tbfs := (u.tbfs.tbfQueuePacket id ⟨throttled.packet.length, throttled⟩).1 } :=
    upright.ledger.same rfl rfl rfl (List.Subset.refl _)
  obtain ⟨counted, only⟩ := foldl_release_ledger ledger fits
  exact upright.only counted only fit

theorem tbfRunQueue (upright : Upright traffic usage u) {id : Nat}
    (timed : id ∈ u.tbfs.timerChain) : Upright traffic usage (u.tbfRunQueue id) := by
  obtain ⟨fit, fits⟩ := upright.buckets.tbfRunQueue (upright.buckets.running id timed)
  have ledger : Ledger traffic usage { u with tbfs := (u.tbfs.tbfRunQueue id).1 } :=
    upright.ledger.same rfl rfl rfl (List.Subset.refl _)
  obtain ⟨counted, only⟩ := foldl_release_ledger ledger fits
  exact upright.only counted only fit

end Upright

theorem adjustMss_length (limit : Nat) (p : List UInt8) :
    (Server.adjustMss limit p).length = p.length := by
  rw [Server.adjustMss]
  dsimp only
  split_ifs
  · rw [Server.adjustTcpMss]
    dsimp only
    split_ifs
    · rfl
    · rfl
    · split
      · rfl
      · split_ifs
        · rfl
        · simp [Server.setHalf]
  · rfl
  · rfl

theorem receive_length {packet : List UInt8}
    (kept : (u.gateway.receive s datagram).packet = some packet) :
    packet.length = (bytesOf datagram).length + 4 ∧
      (bytesOf datagram).length ≤ Server.maxEther := by
  cases datagram with
  | ipv4 p =>
      rw [Gateway.receive, Gateway.processipin] at kept
      dsimp only at kept
      split at kept
      · cases kept
      split at kept
      · cases kept
      rename_i fits
      have forwarded : packet = Server.pktIp ++ Server.adjustMss u.gateway.mss p := by
        iterate 3
          split at kept
          · cases kept
        split at kept
        · rw [Server.throttle_packet] at kept
          exact (Option.some.inj kept).symm
        · exact (Option.some.inj kept).symm
      refine ⟨?_, Nat.le_of_not_lt fits⟩
      rw [forwarded, List.length_append, adjustMss_length, Nat.add_comm]
      rfl
  | ipv6 p =>
      rw [Gateway.receive, Gateway.processipv6in] at kept
      split at kept
      · cases kept
      rename_i fits
      have forwarded : packet = Server.pktIpv6 ++ p := by
        split_ifs at kept
        all_goals first
          | exact (Option.some.inj kept).symm
          | exact (Option.some.inj ((Server.throttle_packet _).symm.trans kept)).symm
          | cases kept
      refine ⟨?_, Nat.le_of_not_lt fits⟩
      rw [forwarded, List.length_append, Nat.add_comm]
      rfl

theorem process_lost {packet : List UInt8} (decided : u.gateway.receive s datagram = .sent packet)
    (lost : ¬ u.tun u.writes = true) :
    u.process s datagram origin = { u with writes := u.writes + 1 } := by
  rw [Upstream.process, decided]
  dsimp only
  rw [Upstream.tunWrite, if_neg lost]
  exact if_neg Bool.false_ne_true

theorem process_taken {packet : List UInt8} (decided : u.gateway.receive s datagram = .sent packet)
    (taken : u.tun u.writes = true) :
    u.process s datagram origin =
      (u.wrote origin).updateSessionsInStat s (bytesOf datagram).length := by
  rw [Upstream.process, decided]
  dsimp only
  rw [Upstream.tunWrite, if_pos taken]
  exact if_pos rfl

theorem Upright.tried (upright : Upright traffic usage u) (writes : Nat) :
    Upright traffic usage { u with writes := writes } :=
  ⟨upright.ledger.same rfl rfl rfl (List.Subset.refl _), upright.rings, upright.buckets⟩

/-- A packet that came whole is counted in its session, or queued for it. -/
theorem Upright.process (upright : Upright traffic usage u)
    (known : (⟨s, bytesOf datagram⟩ : Piece) ∈ u.received)
    (direct : ∀ packet, u.gateway.receive s datagram = .sent packet → u.tun u.writes = true →
      u.bundleOf s = 0)
    (queued : ∀ id packet, u.gateway.receive s datagram = .queued id packet →
      OwnBucket u.tbfs id s) :
    Upright traffic usage
      (u.process s datagram ⟨bytesOf datagram, [⟨s, bytesOf datagram⟩]⟩) := by
  have length {packet : List UInt8} := @receive_length u s datagram packet
  have ether : Server.maxEther < 2 ^ 32 := by simp [Server.maxEther]
  cases decided : u.gateway.receive s datagram with
  | sent packet =>
      by_cases taken : u.tun u.writes = true
      · have alone : u.bundleOf s = 0 := direct packet decided taken
        have small := (length (congrArg Server.Inward.packet decided)).2
        have counted (origin : Origin) :
            (u.wrote origin).updateSessionsInStat s (bytesOf datagram).length =
              (u.wrote origin).count s (bytesOf datagram).length := if_pos alone
        rw [process_taken decided taken, counted]
        have moves := count_moves (u.wrote ⟨bytesOf datagram, [⟨s, bytesOf datagram⟩]⟩)
          ⟨s, bytesOf datagram⟩
        refine ⟨upright.ledger.forward (whole_received known) (fun piece member => ?_) moves rfl
          rfl, upright.rings, upright.buckets⟩
        rw [List.mem_singleton.mp member]
        exact Nat.lt_of_le_of_lt small ether
      · rw [process_lost decided taken]
        exact upright.tried _
  | queued id packet =>
      rw [Upstream.process, decided]
      refine upright.tbfQueuePacket fun used inward => ?_
      obtain ⟨sized, small⟩ := length (congrArg Server.Inward.packet decided)
      have own : (u.tbfs.bucket id).sid = s := queued id packet decided used inward
      refine ⟨bytesOf datagram, by rw [own], ?_, Nat.lt_of_le_of_lt small ether, own ▸ known⟩
      rw [sized, Nat.add_sub_cancel]
  | _ =>
      rw [Upstream.process, decided]
      exact upright

theorem Upright.whole (upright : Upright traffic usage u)
    (attributed : (Event.whole s datagram).Attributed u) :
    Upright traffic usage (u.receiveWhole s datagram) :=
  (upright.receive [⟨s, bytesOf datagram⟩]).process
    (List.mem_append_right _ (List.mem_singleton_self _)) attributed.1 attributed.2

/-- A frame that is put together was received in its pieces, which are small. -/
structure FrameReceived (received : List Piece) (frame : Handed) : Prop where
  inside : frame.Inside
  sound : ∀ i ∈ span frame.ring.reFrameBeginIndex frame.ring.reFrameEndIndex,
    (frame.ring.fragment i).Sound
  pieces : ∀ piece ∈ Upstream.piecesOf frame.ring frame.ring.reFrameBeginIndex
    frame.ring.reFrameEndIndex, piece ∈ received

theorem zero_recorded (received : List Piece) : Fragmentation.zero.All (Recorded received) :=
  fun i => ⟨Multilink.zero_sound i, fun present => absurd rfl present⟩

theorem rings_update {frag : Nat → Fragmentation}
    (others : ∀ c, c ≠ b → (frag c).All (Recorded received))
    (changed : ring.All (Recorded received)) (c : Nat) :
    (update frag b ring c).All (Recorded received) := by
  by_cases here : c = b
  · rw [here, update_self]
    exact changed
  · rw [update_of_ne here]
    exact others c here

theorem clears_recorded (received : List Piece) : Multilink.Clears (Recorded received) :=
  fun _ recorded => ⟨Multilink.clears_sound _ recorded.1, fun present => absurd rfl present⟩

theorem hands_received (received : List Piece) :
    Multilink.Hands (Recorded received) (FrameReceived received) := by
  intro ring first last length buffer recorded present assembled
  refine ⟨Multilink.hands_inside ring first last length buffer (fun i => (recorded i).1) present
    assembled, fun i _ => (recorded i).1, fun piece member => ?_⟩
  obtain ⟨i, there, rfl⟩ := List.mem_map.mp member
  exact (recorded i).2 (present i there)

namespace FrameReceived

variable {frame : Handed}

theorem whole (known : FrameReceived received frame) :
    (⟨readBytes frame.ring.reassembledFrame 4 (frame.length - 4),
      Upstream.piecesOf frame.ring frame.ring.reFrameBeginIndex frame.ring.reFrameEndIndex⟩ :
        Origin).Received received := by
  refine ⟨known.inside.written.trans ?_, known.pieces⟩
  rw [Fragmentation.contents, Upstream.piecesOf, List.flatMap_map]

theorem small (known : FrameReceived received frame) :
    ∀ piece ∈ Upstream.piecesOf frame.ring frame.ring.reFrameBeginIndex
      frame.ring.reFrameEndIndex, piece.bytes.length < 2 ^ 32 := by
  intro piece member
  obtain ⟨i, there, rfl⟩ := List.mem_map.mp member
  dsimp only
  rw [List.length_take_of_le (known.sound i there).copied]
  exact Nat.lt_of_le_of_lt (known.sound i there).array (by simp [Multilink.maxFragLen])

end FrameReceived

structure LeavesRest (b : Nat) (u next : Upstream) : Prop where
  gateway : next.gateway = u.gateway
  tbfs : next.tbfs = u.tbfs
  received : next.received = u.received
  frag : ∀ c, c ≠ b → next.receiver.frag c = u.receiver.frag c

theorem LeavesRest.trans (first : LeavesRest b u middle) (second : LeavesRest b middle next) :
    LeavesRest b u next :=
  ⟨second.gateway.trans first.gateway, second.tbfs.trans first.tbfs,
    second.received.trans first.received, fun c other =>
      (second.frag c other).trans (first.frag c other)⟩

/-- A frame that is handed on is counted by its fragments, unless it is throttled. -/
theorem processmpframe_ledger (ledger : Ledger traffic usage u) {frame : Handed}
    (known : FrameReceived u.received frame) (bundled : u.bundleOf s = b) (real : b ≠ 0)
    (unthrottled : ∀ datagram, u.packetIn s
      (readBytes frame.ring.reassembledFrame 4 (frame.length - 4)) = some datagram →
      ∀ id packet, u.gateway.receive s datagram ≠ .queued id packet) :
    Ledger traffic usage (u.processmpframe b s frame) ∧
      LeavesRest b u (u.processmpframe b s frame) := by
  have put : ∀ v : Upstream, v = { u with
      receiver := { u.receiver with frag := update u.receiver.frag b frame.ring } } →
      Ledger traffic usage v ∧ LeavesRest b u v := by
    rintro v rfl
    refine ⟨ledger.same rfl rfl rfl (List.Subset.refl _), rfl, rfl, rfl, fun c other => ?_⟩
    exact update_of_ne other ..
  rw [Upstream.processmpframe]
  dsimp only
  generalize holds : { u with receiver := { u.receiver with
    frag := update u.receiver.frag b frame.ring } } = v
  obtain ⟨ledger', rest⟩ := put v holds.symm
  have ring : v.receiver.frag b = frame.ring := by
    rw [← holds]
    exact update_self ..
  have packets : v.packetIn s (readBytes frame.ring.reassembledFrame 4 (frame.length - 4)) =
      u.packetIn s (readBytes frame.ring.reassembledFrame 4 (frame.length - 4)) := by
    rw [Upstream.packetIn, Upstream.packetIn, rest.gateway]
  rw [packets]
  cases found : u.packetIn s (readBytes frame.ring.reassembledFrame 4 (frame.length - 4)) with
  | none => exact ⟨ledger', rest⟩
  | some datagram =>
      dsimp only
      have direct := unthrottled datagram found
      rw [← rest.gateway] at direct
      cases decided : v.gateway.receive s datagram with
      | queued id packet => exact absurd decided (direct id packet)
      | sent packet =>
          by_cases taken : v.tun v.writes = true
          · have bundle : v.bundleOf s = b := by
              rw [Upstream.bundleOf, rest.gateway]
              exact bundled
            have counted (origin : Origin) :
                (v.wrote origin).updateSessionsInStat s (bytesOf datagram).length =
                  (span frame.ring.reFrameBeginIndex frame.ring.reFrameEndIndex).foldl
                    (fun u i => u.count (frame.ring.fragment i).sid (frame.ring.fragment i).length)
                    (v.wrote origin) := by
              have here : (v.wrote origin).bundleOf s = b := bundle
              have written : (v.wrote origin).receiver.frag b = frame.ring := ring
              rw [Upstream.updateSessionsInStat, here, if_neg real, written]
            rw [process_taken decided taken, counted]
            have moves := countSpan_moves (v.wrote ⟨readBytes frame.ring.reassembledFrame 4
              (frame.length - 4), Upstream.piecesOf frame.ring frame.ring.reFrameBeginIndex
              frame.ring.reFrameEndIndex⟩) known.sound
            obtain ⟨only, forwarded⟩ := @foldl_count_only frame.ring (v.wrote ⟨readBytes
              frame.ring.reassembledFrame 4 (frame.length - 4), Upstream.piecesOf frame.ring
              frame.ring.reFrameBeginIndex frame.ring.reFrameEndIndex⟩)
              (span frame.ring.reFrameBeginIndex frame.ring.reFrameEndIndex)
            have whole := known.whole
            rw [← rest.received] at whole
            refine ⟨ledger'.forward whole known.small moves forwarded only.received,
              rest.trans ⟨only.gateway, only.tbfs, only.received, fun c _ => ?_⟩⟩
            rw [only.receiver]
            rfl
          · rw [process_lost decided taken]
            exact ⟨ledger'.same rfl rfl rfl (List.Subset.refl _),
              rest.trans ⟨rfl, rfl, rfl, fun _ _ => rfl⟩⟩
      | _ =>
          rw [Upstream.process, decided]
          exact ⟨ledger', rest⟩

/-- All frames that a fragment completes are counted by their fragments. -/
theorem foldl_processmpframe_ledger {handed : List Handed} (ledger : Ledger traffic usage u)
    (known : ∀ frame ∈ handed, FrameReceived u.received frame) (bundled : u.bundleOf s = b)
    (real : b ≠ 0)
    (unthrottled : ∀ frame ∈ handed, ∀ datagram, u.packetIn s
      (readBytes frame.ring.reassembledFrame 4 (frame.length - 4)) = some datagram →
      ∀ id packet, u.gateway.receive s datagram ≠ .queued id packet) :
    Ledger traffic usage (handed.foldl (fun u frame => u.processmpframe b s frame) u) ∧
      LeavesRest b u (handed.foldl (fun u frame => u.processmpframe b s frame) u) := by
  induction handed generalizing u with
  | nil => exact ⟨ledger, rfl, rfl, rfl, fun _ _ => rfl⟩
  | cons first rest ih =>
      obtain ⟨counted, left⟩ := processmpframe_ledger ledger (known first (List.mem_cons_self ..))
        bundled real (unthrottled first (List.mem_cons_self ..))
      have others : ∀ frame ∈ rest, FrameReceived (u.processmpframe b s first).received frame := by
        rw [left.received]
        exact fun frame member => known frame (List.mem_cons_of_mem _ member)
      have again : (u.processmpframe b s first).bundleOf s = b := by
        rw [Upstream.bundleOf, left.gateway]
        exact bundled
      obtain ⟨done, kept⟩ := ih counted others again fun frame member datagram found => by
        rw [left.gateway]
        refine unthrottled frame (List.mem_cons_of_mem _ member) datagram ?_
        rw [← found, Upstream.packetIn, Upstream.packetIn, left.gateway]
      exact ⟨done, left.trans kept⟩

theorem place_recorded {t p : Nat} {memory : Memory} (upright : Upright traffic usage u)
    (long : Stores u.links u.receiver s memory p l → 5 ≤ l) :
    (place u.links u.receiver s t memory p l).ring.All
      (Recorded (u.received ++ [⟨s, readBytes memory (p + 4) (l - 4)⟩])) := by
  have noted := (upright.receive [⟨s, readBytes memory (p + 4) (l - 4)⟩]).rings (u.bundleOf s)
  refine Multilink.place_all (clears_recorded _) noted fun stores seq =>
    ⟨Multilink.stores_sound stores (long stores) seq, fun _ => ?_⟩
  dsimp only
  rw [Multilink.stores_length stores (long stores),
    List.take_of_length_le (Nat.le_of_eq (Avp.readBytes_length _ _ _))]
  exact List.mem_append_right _ (List.mem_singleton_self _)

theorem goesOn_bundled {t p : Nat} {memory : Memory}
    (goesOn : (place u.links u.receiver s t memory p l).goesOn = true) : u.bundleOf s ≠ 0 := by
  by_contra alone
  obtain ⟨_, _, stops⟩ := @Multilink.place_dropped memory u.links u.receiver s t p l
    fun stores => stores.2.1 alone
  exact nomatch goesOn.symm.trans stops

theorem Upright.fragment {p : Nat} {memory : Memory} {placed : Placed} {handed : List Handed}
    (upright : Upright traffic usage u)
    (known : ∀ frame ∈ handed,
      FrameReceived (u.received ++ [⟨s, readBytes memory (p + 4) (l - 4)⟩]) frame)
    (recorded : ring.All (Recorded (u.received ++ [⟨s, readBytes memory (p + 4) (l - 4)⟩])))
    (real : handed ≠ [] → u.bundleOf s ≠ 0)
    (unthrottled : ∀ frame ∈ handed, ∀ datagram, u.packetIn s
      (readBytes frame.ring.reassembledFrame 4 (frame.length - 4)) = some datagram →
      ∀ id packet, u.gateway.receive s datagram ≠ .queued id packet) :
    Upright traffic usage (u.receiveFragment s memory p l placed handed ring) := by
  have noted := upright.receive [⟨s, readBytes memory (p + 4) (l - 4)⟩]
  rw [Upstream.receiveFragment]
  dsimp only
  generalize starts : { u with
    received := u.received ++ [Piece.mk s (readBytes memory (p + 4) (l - 4))]
    receiver := { u.receiver with lastSeq := placed.lastSeq } } = v
  have ledger : Ledger traffic usage v := by
    rw [← starts]
    exact noted.ledger.same rfl rfl rfl (List.Subset.refl _)
  have gateway : v.gateway = u.gateway := by rw [← starts]
  have tbfs : v.tbfs = u.tbfs := by rw [← starts]
  have frag : v.receiver.frag = u.receiver.frag := by rw [← starts]
  have received : v.received = u.received ++ [⟨s, readBytes memory (p + 4) (l - 4)⟩] := by
    rw [← starts]
  have counted : Ledger traffic usage
        (handed.foldl (fun v frame => v.processmpframe (u.bundleOf s) s frame) v) ∧
      LeavesRest (u.bundleOf s) v
        (handed.foldl (fun v frame => v.processmpframe (u.bundleOf s) s frame) v) := by
    by_cases none : handed = []
    · rw [none]
      exact ⟨ledger, rfl, rfl, rfl, fun _ _ => rfl⟩
    · refine foldl_processmpframe_ledger ledger (received ▸ known) ?_ (real none) ?_
      · rw [Upstream.bundleOf, Upstream.bundleOf, gateway]
      · intro frame member datagram found
        rw [gateway]
        refine unthrottled frame member datagram ?_
        rw [← found, Upstream.packetIn, Upstream.packetIn, gateway]
  obtain ⟨done, rest⟩ := counted
  refine ⟨done.same rfl rfl rfl (List.Subset.refl _), ?_, ?_⟩
  · rw [rest.received, received]
    refine rings_update (fun b other => ?_) recorded
    rw [rest.frag b other, frag]
    exact noted.rings b
  · rw [rest.received, received, rest.tbfs, tbfs]
    exact noted.buckets

/-- **Step lemma.** What is counted stays what was delivered. -/
theorem Event.Performs.upright {event : Event} (moves : event.Performs u next)
    (upright : Upright traffic usage u) (attributed : event.Attributed u) :
    Upright traffic usage next := by
  cases moves with
  | whole s datagram => exact upright.whole attributed
  | @fragment s t memory p l final goesOn reached finished =>
      have placed := @place_recorded u traffic usage s l t p memory upright attributed.1
      have found := (Multilink.Placed.search_holds placed).reached (clears_recorded _)
        (hands_received _) reached
      exact upright.fragment found.handed found.ring (fun _ => goesOn_bundled goesOn)
        (attributed.2 final reached)
  | placed s t memory p l stops =>
      have placed := @place_recorded u traffic usage s l t p memory upright attributed.1
      exact upright.fragment nofun placed (fun some => absurd rfl some) nofun
  | runQueue id timed => exact upright.tbfRunQueue timed
  | newTbf sid maxCredit rate send =>
      exact ⟨upright.ledger.same rfl rfl rfl (List.Subset.refl _), upright.rings,
        upright.buckets.newTbf sid maxCredit rate send⟩
  | freeTbf id =>
      exact ⟨upright.ledger.same rfl rfl rfl (List.Subset.refl _), upright.rings,
        upright.buckets.freeTbf id⟩
  | newBundle b =>
      refine ⟨upright.ledger.same rfl rfl rfl (List.Subset.refl _), ?_, upright.buckets⟩
      exact rings_update (fun c _ => upright.rings c) (zero_recorded _)
  | change gateway lastSeq time =>
      exact ⟨upright.ledger.same rfl rfl rfl (List.Subset.refl _), upright.rings,
        upright.buckets.queued, upright.buckets.running, upright.buckets.once⟩

theorem Upstream.Starts.upright (starts : u.Starts traffic usage) :
    Upright traffic usage u where
  ledger := by
    refine ⟨fun s => ?_, fun s => ?_, fun origin member => ?_, fun origin member => ?_⟩
    · rw [starts.traffic, Upstream.delivered, starts.forwarded]
      rfl
    · rw [starts.usage, Upstream.delivered, starts.forwarded]
      rfl
    · rw [starts.forwarded] at member
      exact nomatch member
    · rw [starts.forwarded] at member
      exact nomatch member
  rings b := by
    rw [starts.rings]
    exact zero_recorded _
  buckets := by
    refine ⟨fun id _ packet member => ?_, fun id member => ?_, ?_⟩
    · rw [starts.queues] at member
      exact nomatch member
    · rw [starts.timer] at member
      exact nomatch member
    · rw [starts.timer]
      exact List.nodup_nil

/-- **Upstream traffic is counted once.** In every run whose steps attribute what they forward,
each session is billed for exactly what it delivered of the packets that went on. -/
theorem upstream_counted (traffic : Nat → Traffic) (usage : Nat → Usage) (u : Upstream)
    (reached : (upstreamSystem traffic usage).ReachableUnder
      (fun u event => event.Attributed u) u) : CountedFrom traffic usage u :=
  (reached.invariant (fun _ starts => Upstream.Starts.upright starts)
    fun _ _ _ upright attributed moves =>
      Event.Performs.upright moves upright attributed).ledger.countedFrom

/-- Sessions 1 and 2 are in a bundle, and session 3 is not. Nothing has been received. -/
def waiting : Upstream where
  gateway := { Server.bundledGateway with
    st := Server.bundledState.setSession 3 fun session =>
      { session with ppp := { session.ppp with ipcp := .opened } } }
  littleEndian := true
  receiver := Multilink.emptyReceiver
  traffic _ := ⟨0, 0, 0, 0⟩
  usage _ := .zero
  tbfs := ⟨0, fun _ => .empty, [], 0, 0⟩
  tun _ := true
  writes := 0
  received := []
  forwarded := []

theorem waiting_starts : waiting.Starts waiting.traffic waiting.usage :=
  ⟨rfl, rfl, rfl, fun _ => rfl, rfl, rfl⟩

/-- A packet of session 3. -/
theorem upstream_counted_alone :
    CountedFrom waiting.traffic waiting.usage
      (waiting.receiveWhole 3 (.ipv4 Server.spoofedPacket)) ∧
      ((waiting.receiveWhole 3 (.ipv4 Server.spoofedPacket)).traffic 3).bytes = 20 := by
  have alone : waiting.bundleOf 3 = 0 := by decide
  have sent : waiting.gateway.receive 3 (.ipv4 Server.spoofedPacket) =
      .sent (Server.pktIp ++ Server.spoofedPacket) := by decide +kernel
  have attributed : (Event.whole 3 (.ipv4 Server.spoofedPacket)).Attributed waiting :=
    ⟨fun _ _ _ => alone, fun id packet queued => nomatch sent.symm.trans queued⟩
  exact ⟨upstream_counted waiting.traffic waiting.usage _ (.step _ (.initial waiting_starts)
    attributed (.whole 3 (.ipv4 Server.spoofedPacket))), by decide⟩

/-- A packet that comes whole on session 1 goes on, and is counted for a fragment that was never
received. -/
theorem whole_in_bundle_not_counted :
    ¬ ∀ u, (upstreamSystem waiting.traffic waiting.usage).Reachable u →
      CountedFrom waiting.traffic waiting.usage u := by
  intro counted
  have billed := (counted _ (.step _ (.initial waiting_starts) trivial
    (.whole 1 (.ipv4 Server.spoofedPacket)))).billed 1
  have missing := billed.localCout
  revert missing
  decide

end L2tpns.Billing
