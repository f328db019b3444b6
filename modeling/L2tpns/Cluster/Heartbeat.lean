import Mathlib.Algebra.Group.Int.Defs
import Mathlib.Algebra.Group.Nat.Defs
import Mathlib.Logic.Function.Basic

/-! # The cluster protocol

Heartbeats, the ring buffer of past heartbeats, the catch-up of a slave that
missed some, and the election of a master. Addresses and times are natural
numbers; `clockt` and `uint32_t` arithmetic is taken modulo `2 ^ 32`, the table
version modulo `2 ^ 64`. A datagram is the message it decodes to. The tables
that heartbeat elements load into are outside this module: the element loop is
the parameter `loads`, which says whether it reaches the end of the packet.
-/

namespace L2tpns.Cluster

/-- Protocol version number. -/
def hbVersion : Nat := 9

/-- Heartbeat sequence numbers run below this bound. -/
def hbMaxSeq : Nat := 2 ^ 30

/-- How many old heartbeats are remembered. -/
def hbHistorySize : Nat := 64

theorem hbHistorySize_lt_hbMaxSeq : hbHistorySize < hbMaxSeq := by decide

/-- Capacity of one slot of `past_hearts`. -/
def maxHeartSize : Nat := 8192

/-- Bytes of the type and version words and of the padded `heartt`. -/
def heartHeaderSize : Nat := 8 + 128

/-- `heartt`, the header of a heartbeat. -/
structure Heart where
  version : Nat
  seq : Nat
  basetime : Nat
  clusterid : Nat
  highsession : Nat
  freesession : Nat
  highbundle : Nat
  hightunnel : Nat
  interval : Nat
  timeout : Nat
  tableVersion : Nat
deriving DecidableEq, Repr

/-- A heartbeat datagram: the version word, the header and the packed elements. -/
structure Heartbeat where
  version : Nat
  head : Heart
  elements : List UInt8
deriving DecidableEq, Repr

def Heartbeat.size (heartbeat : Heartbeat) : Nat :=
  heartHeaderSize + heartbeat.elements.length

/-- The cluster datagrams exchanged by masters and slaves. `empty` is what a
never written slot of `past_hearts` holds. -/
inductive Message where
  | heartbeat (heartbeat : Heartbeat)
  | lastseen (seq : Int)
  | kill (seq : Int)
  | master (address : Nat)
  | empty
deriving DecidableEq, Repr

/-- Why a process leaves the cluster. -/
inductive ExitReason where
  | oversizeHeartbeat
  | moreStateChanges
  | olderMaster
  | higherAddress
  | killed
deriving DecidableEq, Repr

/-- The exits that a master takes because another master's heartbeat arrived. -/
def ExitReason.byHeartbeat : ExitReason → Bool
  | .moreStateChanges | .olderMaster | .higherAddress => true
  | .oversizeHeartbeat | .killed => false

/-- What a process does to the world outside its own state. -/
inductive Event where
  | send (peer : Nat) (message : Message)
  | sendAll (message : Message)
  | load (heartbeat : Heartbeat)
  | advertiseRoutes
  | withdrawRoutes
  | garp
  | exit (reason : ExitReason)
deriving DecidableEq, Repr

/-- A slot of `past_hearts`; no `data` means that `size` is zero. -/
structure PastHeart where
  seq : Int
  data : Option Heartbeat
deriving DecidableEq, Repr

/-- The datagram a slot is resent as. -/
def PastHeart.message (saved : PastHeart) : Message :=
  saved.data.elim .empty .heartbeat

/-- An entry of `peers`. -/
structure Peer where
  peer : Nat
  basetime : Nat
  timestamp : Nat
  uptodate : Bool
deriving DecidableEq, Repr

/-- The state of one process, its own address and start time included. -/
structure Node where
  bindAddress : Nat
  myAddress : Nat
  basetime : Nat
  iamMaster : Bool
  masterAddress : Nat
  masterMinAdv : Nat
  seqNumber : Int
  lastHb : Nat
  lastHbVer : Nat
  hbInterval : Nat
  hbTimeout : Nat
  tableVersion : Nat
  numChanges : Nat
  highestSessionid : Nat
  highestBundleid : Nat
  highestTunnelid : Nat
  sessionfree : Nat
  lastseenSeq : Int
  lastseenTime : Nat
  probed : Nat
  mainQuit : Bool
  time : Nat
  timeNow : Nat
  peers : List Peer
  pastHearts : Nat → PastHeart

/-- The static storage of `past_hearts` before anything is saved. -/
def noPastHearts : Nat → PastHeart := fun _ => ⟨0, none⟩

/-- A process after `cluster_init`: a slave that has heard nobody. -/
def clusterInit (bindAddress myAddress basetime hbInterval hbTimeout masterMinAdv time : Nat) :
    Node where
  bindAddress
  myAddress
  basetime
  iamMaster := false
  masterAddress := 0
  masterMinAdv
  seqNumber := -1
  lastHb := time
  lastHbVer := 0
  hbInterval
  hbTimeout
  tableVersion := 0
  numChanges := 0
  highestSessionid := 0
  highestBundleid := 0
  highestTunnelid := 0
  sessionfree := 0
  lastseenSeq := 0
  lastseenTime := 0
  probed := 0
  mainQuit := false
  time
  timeNow := 0
  peers := []
  pastHearts := noPastHearts

/-- `int` to `uint32_t`. -/
def uint32 (value : Int) : Nat := (value % 2 ^ 32).toNat

/-- `uint32_t` to `int`. -/
def int32 (value : Nat) : Int := Int.bmod value (2 ^ 32)

theorem uint32_int32 {value : Nat} (word : value < 2 ^ 32) : uint32 (int32 value) = value := by
  have same : int32 value % (2 ^ 32 : Nat) = (value : Int) % (2 ^ 32 : Nat) := Int.bmod_emod
  have within : (value : Int) % (2 ^ 32 : Nat) = value := by omega
  change (int32 value % (2 ^ 32 : Nat)).toNat = value
  rw [same, within, Int.toNat_natCast]

/-- Unicast; a null address is skipped. -/
def peerSend (peer : Nat) (message : Message) : List Event :=
  if peer = 0 then [] else [.send peer message]

/-- Save a heartbeat in a slot of the ring. -/
def Node.saveHeart (node : Node) (slot : Nat) (seq : Int) (heartbeat : Heartbeat) : Node :=
  { node with
    pastHearts := Function.update node.pastHearts slot ⟨seq, some heartbeat⟩ }

/-- Send a heartbeat to the cluster, keeping a copy of it; `none` when it is too
large, which ends the process. -/
def sendHeartbeat (node : Node) (seq : Int) (heartbeat : Heartbeat) :
    Option (Node × List Event) :=
  if heartbeat.size > maxHeartSize then none
  else
    some (node.saveHeart (seq.tmod hbHistorySize).toNat seq heartbeat,
      [.sendAll (.heartbeat heartbeat)])

/-- The header `cluster_heartbeat` fills out. -/
def Node.heart (node : Node) : Heart where
  version := hbVersion
  seq := uint32 node.seqNumber
  basetime := node.basetime % 2 ^ 32
  clusterid := node.bindAddress
  highsession := node.highestSessionid
  freesession := node.sessionfree
  highbundle := node.highestBundleid
  hightunnel := node.highestTunnelid
  interval := node.hbInterval
  timeout := node.hbTimeout
  tableVersion := node.tableVersion

/-- Fold the queued changes into the table version. -/
def Node.countChanges (node : Node) : Node :=
  { node with tableVersion := (node.tableVersion + node.numChanges) % 2 ^ 64 }

/-- The heartbeat a master sends next, with the packed `elements`. -/
def Node.nextHeartbeat (node : Node) (elements : List UInt8) : Heartbeat :=
  ⟨hbVersion, node.countChanges.heart, elements⟩

/-- Send a heartbeat with the packed `elements`. -/
def clusterHeartbeat (node : Node) (elements : List UInt8) : Node × List Event :=
  if !node.iamMaster then
    (node, [])
  else
    let counted := node.countChanges
    let heartbeat := node.nextHeartbeat elements
    -- the packing buffer is `MAX_HEART_SIZE + sizeof(heartt) + sizeof(int)` long
    if heartbeat.size > maxHeartSize + 128 + 4 then
      (counted, [.exit .oversizeHeartbeat])
    else
      match sendHeartbeat { counted with numChanges := 0 } counted.seqNumber heartbeat with
      | none => (counted, [.exit .oversizeHeartbeat])
      | some (sent, events) =>
          ({ sent with seqNumber := (counted.seqNumber + 1).tmod hbMaxSeq }, events)

/-- A master after sending `heartbeat`. -/
def Node.afterHeartbeat (node : Node) (heartbeat : Heartbeat) : Node :=
  { { node.countChanges with numChanges := 0 }.saveHeart
      (node.seqNumber.tmod hbHistorySize).toNat node.seqNumber heartbeat with
    seqNumber := (node.seqNumber + 1).tmod hbMaxSeq }

theorem clusterHeartbeat_of_fits {node : Node} {elements : List UInt8}
    (master : node.iamMaster = true) (fits : (node.nextHeartbeat elements).size ≤ maxHeartSize) :
    clusterHeartbeat node elements =
      (node.afterHeartbeat (node.nextHeartbeat elements),
        [.sendAll (.heartbeat (node.nextHeartbeat elements))]) := by
  have packed : ¬ (node.nextHeartbeat elements).size > maxHeartSize + 128 + 4 := by omega
  have saved : ¬ (node.nextHeartbeat elements).size > maxHeartSize := by omega
  simp only [clusterHeartbeat, sendHeartbeat, master, Bool.not_true, Bool.false_eq_true,
    ↓reduceIte, packed, saved]
  rfl

theorem clusterHeartbeat_of_oversize {node : Node} {elements : List UInt8}
    (master : node.iamMaster = true)
    (oversize : maxHeartSize < (node.nextHeartbeat elements).size) :
    clusterHeartbeat node elements = (node.countChanges, [.exit .oversizeHeartbeat]) := by
  simp only [clusterHeartbeat, sendHeartbeat, master, Bool.not_true, Bool.false_eq_true, ↓reduceIte,
    gt_iff_lt, oversize, ite_self]

/-- Resend from `seq` up to the next number to be sent. A slot that holds
another number ends the loop, and so does a negative index, which lies outside
the ring. The ring has `hbHistorySize` slots, which bounds the loop. -/
def resendHearts (node : Node) (slave : Nat) : Nat → Int → List Event
  | 0, _ => []
  | fuel + 1, seq =>
      if seq = node.seqNumber then []
      else
        let slot := seq.tmod hbHistorySize
        if slot < 0 then []
        else
          let saved := node.pastHearts slot.toNat
          if seq ≠ saved.seq then []
          else
            peerSend slave saved.message ++
              resendHearts node slave fuel ((seq + 1).tmod hbMaxSeq)

theorem resendHearts_succ (node : Node) (slave fuel : Nat) (seq : Int) :
    resendHearts node slave (fuel + 1) seq =
      if seq = node.seqNumber then []
      else if seq.tmod hbHistorySize < 0 then []
      else if seq ≠ (node.pastHearts (seq.tmod hbHistorySize).toNat).seq then []
      else peerSend slave (node.pastHearts (seq.tmod hbHistorySize).toNat).message ++
        resendHearts node slave fuel ((seq + 1).tmod hbMaxSeq) := rfl

/-- How many heartbeats separate `seq` from the next one to be sent. -/
def Node.behind (node : Node) (seq : Int) : Int :=
  let diff := node.seqNumber - seq
  if diff < 0 then diff + hbMaxSeq else diff

/-- A slave has told us that it missed `seq`: resend everything since. -/
def clusterCatchupSlave (node : Node) (seq : Int) (slave : Nat) : List Event :=
  if !node.iamMaster then
    peerSend slave (.master node.masterAddress)
  else if node.behind seq ≥ hbHistorySize then
    peerSend slave (.kill seq)
  else
    resendHearts node slave hbHistorySize seq

/-- The election loop of `cluster_check_master`: `none` when some peer is
expected to win, else the number of peers that are up to date. -/
def election (basetime myAddress time timeout : Nat) : List Peer → Nat → Option Nat
  | [], havePeers => some havePeers
  | peer :: peers, havePeers =>
      if (peer.timestamp + timeout) % 2 ^ 32 < time then
        election basetime myAddress time timeout peers havePeers
      else if peer.basetime = 0 then
        election basetime myAddress time timeout peers havePeers
      else if peer.basetime < basetime then none
      else if peer.basetime = basetime ∧ peer.peer > myAddress then none
      else election basetime myAddress time timeout peers
        (if peer.uptodate then havePeers + 1 else havePeers)

/-- Ask the master for a sign of life when its heartbeat is late. -/
def probeMaster (node : Node) : Node × List Event :=
  if node.masterAddress ≠ 0 ∧
      node.time > (node.lastHb + 2 * node.hbInterval + 11) % 2 ^ 32 then
    if node.probed = 0 ∨ node.time > (node.probed + 2 * node.hbInterval) % 2 ^ 32 then
      ({ node with probed := node.time },
        peerSend node.masterAddress (.lastseen node.seqNumber))
    else (node, [])
  else ({ node with probed := 0 }, [])

/-- Check that we have a master, and hold an election when it timed out. -/
def clusterCheckMaster (node : Node) : Node × List Event :=
  if node.iamMaster then (node, [])
  else
    let (probing, probes) := probeMaster node
    if probing.time < (probing.lastHb + probing.hbTimeout) % 2 ^ 32 then (probing, probes)
    else
      let orphan := { probing with lastHb := (probing.time + 1) % 2 ^ 32, masterAddress := 0 }
      if orphan.mainQuit then (orphan, probes)
      else
        match election orphan.basetime orphan.myAddress orphan.time orphan.hbTimeout
            orphan.peers 0 with
        | none => (orphan, probes)
        | some havePeers =>
            ({ orphan with
                iamMaster := true
                seqNumber := if orphan.seqNumber = -1 then 0 else orphan.seqNumber },
              probes ++ [.garp,
                if havePeers < orphan.masterMinAdv then .advertiseRoutes else .withdrawRoutes])

/-- A slave answered with the master it knows. -/
def clusterSetMaster (node : Node) (master : Nat) : Node × List Event :=
  if node.iamMaster then (node, [])
  else if master = 0 then clusterCheckMaster { node with masterAddress := master }
  else
    let (checked, events) :=
      clusterCheckMaster { node with masterAddress := master, lastHb := node.time }
    (checked, peerSend master (.lastseen node.seqNumber) ++ events)

section Receive

variable (loads : Nat → List UInt8 → Bool)

/-- A master hears another master. This must match the election. -/
def hearMaster (node : Node) (heart : Heart) (addr : Nat) : List Event :=
  if heart.basetime = 0 then []
  else if heart.tableVersion > node.tableVersion then [.exit .moreStateChanges]
  else if heart.tableVersion < node.tableVersion then []
  else if node.basetime > heart.basetime then [.exit .olderMaster]
  else if node.basetime < heart.basetime then []
  else if node.myAddress < addr then [.exit .higherAddress]
  -- a unicast heartbeat gives the other one a chance to die
  else clusterCatchupSlave node (node.seqNumber - 1) addr

/-- A slave got a number it does not expect: ask for a resend, at most once per
second for one number. -/
def outOfSequence (node : Node) (addr : Nat) : Node × List Event :=
  let ask := node.seqNumber ≠ node.lastseenSeq ∨ node.timeNow ≠ node.lastseenTime
  if ask then
    ({ node with lastseenSeq := node.seqNumber, lastseenTime := node.timeNow },
      peerSend addr (.lastseen node.seqNumber))
  else (node, [])

/-- A slave takes the next heartbeat: advance, save, then load its elements. -/
def takeHeartbeat (node : Node) (heartbeat : Heartbeat) (addr : Nat) :
    Node × List Event :=
  let head := heartbeat.head
  -- here the sequence number is unsigned
  let saved := { node with seqNumber := ((head.seq + 1) % 2 ^ 32 % hbMaxSeq : Nat) }.saveHeart
    (head.seq % hbHistorySize) (int32 head.seq) heartbeat
  let checked := { saved with
    sessionfree := head.freesession
    hbInterval := head.interval
    hbTimeout := head.timeout }
  if loads heartbeat.version heartbeat.elements then
    ({ checked with
        masterAddress := addr
        lastHb := checked.time
        tableVersion := head.tableVersion }, [.load heartbeat])
  else (checked, [.load heartbeat])

/-- A slave hears its master. -/
def followMaster (node : Node) (heartbeat : Heartbeat) (addr : Nat) :
    Node × List Event :=
  -- ignore a stray master until ours has timed out
  if node.masterAddress ≠ 0 ∧ addr ≠ node.masterAddress then (node, [])
  else
    let aligned := if node.seqNumber = -1 then
      { node with seqNumber := int32 heartbeat.head.seq } else node
    let heard := { aligned with lastHb := aligned.time, lastHbVer := heartbeat.version }
    if uint32 heard.seqNumber ≠ heartbeat.head.seq then outOfSequence heard addr
    else takeHeartbeat loads heard heartbeat addr

def clusterProcessHeartbeat (node : Node) (heartbeat : Heartbeat) (addr : Nat) :
    Node × List Event :=
  if heartbeat.version < 5 ∨ heartbeat.version > hbVersion then (node, [])
  else if heartbeat.size > maxHeartSize then (node, [])
  else if heartbeat.head.clusterid ≠ node.bindAddress then (node, [])
  else if node.iamMaster then (node, hearMaster node heartbeat.head addr)
  else followMaster loads node heartbeat addr

/-- Dispatch a cluster datagram from `addr`. -/
def processcluster (node : Node) (message : Message) (addr : Nat) :
    Node × List Event :=
  if addr = node.myAddress then (node, [])
  else
    match message with
    | .empty => (node, [])
    | .master master => clusterSetMaster node master
    | .lastseen seq => (node, clusterCatchupSlave node seq addr)
    | .kill seq =>
        if node.iamMaster then (node, [])
        else if seq ≠ node.seqNumber then (node, [])
        else (node, [.exit .killed])
    | .heartbeat heartbeat => clusterProcessHeartbeat loads node heartbeat addr

end Receive

end L2tpns.Cluster
