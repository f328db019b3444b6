import L2tpns.Cluster.Packing
import L2tpns.Server.State

/-! # Cluster packets in memory

What a packet makes its receiver read and index. A packet lies in a larger
buffer, so a read behind its end finds other bytes. The parser stays inside the
packet and inside its tables exactly when the packet neither ends within the two
words of an element nor has an element with a negative id that is loaded, and
forwarded packets, byte counters and throttled packets avoid the slips of their
own checks (`L2tpns.Cluster.Received.processcluster_inside_iff`).
-/

namespace L2tpns.Cluster

open Server (maxSession maxBundle maxTunnel)

def Kind.entries : Kind → Nat
  | .session => maxSession
  | .bundle => maxBundle
  | .tunnel => maxTunnel

/-- Sizes of the structures in a packet, those of older versions included. -/
structure WireSizes where
  heart : Nat
  sess : Nat
  bund : Nat
  tunn : Nat
  oldsession : Nat
  oldsessionV7 : Nat
  oldsessionV8 : Nat

/-- A read of the buffer, or the use of an id as an index. -/
inductive Access where
  | read (offset len : Nat)
  | entry (kind : Kind) (id : Int)
  | filter (id : Int)
deriving DecidableEq, Repr

/-- Bytes received, and those that follow them in the buffer. -/
structure Received where
  bytes : List UInt8
  beyond : Nat → UInt8

namespace Received

variable (sizes : WireSizes) (datagram : Received)

def size : Nat := datagram.bytes.length

def byte (offset : Nat) : UInt8 := datagram.bytes.getD offset (datagram.beyond offset)

/-- A 32 bit word of the buffer. -/
def word (offset : Nat) : Nat :=
  ((datagram.byte offset).toUInt32 ||| (datagram.byte (offset + 1)).toUInt32 <<< 8 |||
    (datagram.byte (offset + 2)).toUInt32 <<< 16 |||
    (datagram.byte (offset + 3)).toUInt32 <<< 24).toNat

def slice (offset len : Nat) : List UInt8 :=
  (List.range len).map fun i => datagram.byte (offset + i)

/-- What follows the two words of an element: the bytes it takes, the table its
record is loaded into, if it is, and whether it is loaded out of the packet. -/
structure Body where
  consumed : Nat
  load : Option Kind
  inPlace : Bool

/-- Whether a decompressed session of version `hbVer` is loaded. -/
def csessionLoads (hbVer size : Nat) : Bool :=
  if hbVer < 6 then size = sizes.oldsession
  else if size ≠ sizes.sess then
    hbVer < hbVersion ∧ size < sizes.sess ∧
      (hbVer = 7 ∧ size = sizes.oldsessionV7 ∨ size = sizes.oldsessionV8)
  else true

/-- Whether a decompressed tunnel is loaded. -/
def ctunnelLoads (hbVer size : Nat) : Bool :=
  ¬ (hbVersion ≤ hbVer ∧ size ≠ sizes.tunn ∨ hbVer < hbVersion ∧ sizes.tunn < size)

/-- A compressed element, decompressed into a buffer of `room` bytes. -/
def compressedBody (kind : Kind) (room : Nat) (loads : Nat → Bool) (rest : List UInt8) : Body :=
  let decompressed := rleDecompress rest room
  { consumed := rest.length - decompressed.2.length
    load := if loads decompressed.1.length then some kind else none
    inPlace := false }

/-- A plain element of `len` bytes. The comparison is one of sizes, which a
negative length passes. -/
def plainBody (kind : Kind) (len : Nat) (inPlace : Bool) (s : Int) : Option Body :=
  if 0 ≤ s ∧ s < len then none else some ⟨len, some kind, inPlace⟩

/-- The switch over the type of an element, with `s` bytes left. -/
def elementBody (hbVer type : Nat) (s : Int) (rest : List UInt8) : Option Body :=
  match type with
  | 12 => some (compressedBody .session (sizes.sess + 2) (csessionLoads sizes hbVer) rest)
  | 5 =>
      -- an old session is converted before its id is looked at
      if hbVer < 6 then plainBody .session sizes.oldsession false s
      else plainBody .session sizes.sess true s
  | 13 => some (compressedBody .tunnel (sizes.tunn + 2) (ctunnelLoads sizes hbVer) rest)
  | 4 => plainBody .tunnel sizes.tunn true s
  | 18 => some (compressedBody .bundle (sizes.bund + 2) (fun size => size = sizes.bund) rest)
  | 17 => plainBody .bundle sizes.bund true s
  | _ => none

/-- `cluster_recv_session`, `cluster_recv_tunnel` and `cluster_recv_bundle`. -/
def recv (kind : Kind) (more : Int) (record : List Access) : List Access :=
  if kind.entries ≤ more then [] else .entry kind more :: record

/-- What the body of an element at `offset` makes the receiver touch. -/
def Body.accesses (body : Body) (offset : Nat) (more : Int) : List Access :=
  let record : List Access := [.read offset body.consumed]
  match body.load with
  | none => record
  | some kind => if body.inPlace then recv kind more record else record ++ recv kind more []

/-- The element at `p`, with `s` bytes left behind its two words. -/
def elementAt (hbVer p : Nat) (s : Int) : Option Body :=
  elementBody sizes hbVer (datagram.word p) s (datagram.slice (p + 8) s.toNat)

/-- The element loop of `cluster_process_heartbeat`, with `s` bytes left at `p`. -/
def elementLoop (hbVer p : Nat) (s : Int) : List Access :=
  if 0 < s then
    .read p 4 :: .read (p + 4) 4 ::
      match elementAt sizes datagram hbVer p (s - 8) with
      | none => []
      | some body =>
          body.accesses (p + 8) (int32 (datagram.word (p + 4))) ++
            elementLoop hbVer (p + 8 + body.consumed) (s - 8 - body.consumed)
  else []
termination_by s.toNat
decreasing_by omega

/-- `cluster_handle_bytes`, with `size` bytes left at `p`. -/
def clusterHandleBytes (p size : Nat) : List Access :=
  if 20 ≤ size then
    .read p 4 ::
      if maxSession < datagram.word p then []
      else
        .entry .session (datagram.word p) :: .read (p + 4) 16 ::
          clusterHandleBytes (p + 20) (size - 20)
  else []
termination_by size

/-- Whether a slave goes on to the elements of a heartbeat from `addr`. -/
def accepts (node : Node) (addr : Nat) : Bool :=
  datagram.word 20 = node.bindAddress ∧ node.iamMaster = false ∧
    (node.masterAddress = 0 ∨ addr = node.masterAddress) ∧
    (node.seqNumber = -1 ∨ uint32 node.seqNumber = datagram.word 12)

/-- `cluster_process_heartbeat`. -/
def clusterProcessHeartbeat (node : Node) (addr : Nat) : List Access :=
  let hbVer := datagram.word 4
  if hbVer < 5 ∨ hbVersion < hbVer then []
  else if maxHeartSize < datagram.size then []
  else if datagram.size - 8 < sizes.heart then []
  else
    .read 8 sizes.heart ::
      if datagram.accepts node addr then
        .read 0 datagram.size ::
          elementLoop sizes datagram hbVer (8 + sizes.heart)
            ((datagram.size - 8 - sizes.heart : Nat) : Int)
      else []

/-- The checks of `tbf_queue_packet`; `filters` is the size of the list of
filters, if it was allocated. -/
def tbfQueuePacket (filters : Option Nat) (id : Int) : List Access :=
  match filters with
  | none => []
  | some count => if count < id ∨ id < 1 then [] else [.filter id]

/-- `processcluster`. Packets that are passed on are read there. -/
def processcluster (node : Node) (filters : Option Nat) (addr : Nat) : List Access :=
  if addr = node.myAddress then []
  else if datagram.size < 8 then []
  else
    .read 0 4 :: .read 4 4 ::
      match datagram.word 0 with
      | 1 => clusterProcessHeartbeat sizes datagram node addr
      | 3 => [.read 8 (min (datagram.size - 8) 16)]
      | 9 | 16 => if node.iamMaster then [.read 8 4] else []
      | 10 => if node.iamMaster then clusterHandleBytes datagram 8 (datagram.size - 8) else []
      | 11 => if node.iamMaster then tbfQueuePacket filters (int32 (datagram.word 4)) else []
      | 14 => if node.iamMaster then [.read 8 (datagram.size - 8)] else []
      | _ => []

/-- Reads are inside the packet, indexes inside the tables. -/
def Inside (filters : Option Nat) : Access → Prop
  | .read offset len => offset + len ≤ datagram.size
  | .entry kind id => 0 ≤ id ∧ id < kind.entries
  | .filter id => ∃ count, filters = some count ∧ 0 ≤ id ∧ id < count

/-- The elements from `p` on do not end within the two words of one, and no id of
a record that is loaded has its highest bit set. -/
def ElementsFit (hbVer p left : Nat) : Prop :=
  if left = 0 then True
  else if left < 8 then False
  else
    match elementAt sizes datagram hbVer p ((left - 8 : Nat) : Int) with
    | none => True
    | some body =>
        (body.load.isSome → datagram.word (p + 4) < 2 ^ 31) ∧
          ElementsFit hbVer (p + 8 + body.consumed) (left - 8 - body.consumed)
termination_by left
decreasing_by omega

/-- No counters, up to the first that are refused, are for session `MAXSESSION`. -/
def CountersFit (p size : Nat) : Prop :=
  if 20 ≤ size then
    maxSession < datagram.word p ∨
      datagram.word p < maxSession ∧ CountersFit (p + 20) (size - 20)
  else True
termination_by size

/-- Packets that the parser handles inside their bounds. -/
def WellFormed (node : Node) (filters : Option Nat) (addr : Nat) : Prop :=
  match datagram.word 0 with
  | 1 =>
      5 ≤ datagram.word 4 → datagram.word 4 ≤ hbVersion → datagram.size ≤ maxHeartSize →
        8 + sizes.heart ≤ datagram.size → datagram.accepts node addr →
          ElementsFit sizes datagram (datagram.word 4) (8 + sizes.heart)
            (datagram.size - 8 - sizes.heart)
  | 9 | 16 => node.iamMaster → 12 ≤ datagram.size
  | 10 => node.iamMaster → CountersFit datagram 8 (datagram.size - 8)
  | 11 =>
      node.iamMaster → datagram.word 4 ≠ 0 → datagram.word 4 < 2 ^ 31 →
        filters ≠ some (datagram.word 4)
  | _ => True

variable {sizes datagram} {filters : Option Nat}

theorem word_lt (offset : Nat) : datagram.word offset < 2 ^ 32 := UInt32.toNat_lt _

/-- A body lies within the bytes that are left. -/
theorem elementAt_consumed {hbVer p : Nat} {s : Int} {body : Body} (left : 0 ≤ s)
    (found : elementAt sizes datagram hbVer p s = some body) : (body.consumed : Int) ≤ s := by
  have length : (datagram.slice (p + 8) s.toNat).length = s.toNat := by
    rw [slice, List.length_map, List.length_range]
  have compressed : ∀ kind room loads,
      ((compressedBody kind room loads (datagram.slice (p + 8) s.toNat)).consumed : Int) ≤ s := by
    intro kind room loads
    unfold compressedBody
    dsimp only
    omega
  have plain : ∀ kind len inPlace, plainBody kind len inPlace s = some body →
      (body.consumed : Int) ≤ s := by
    intro kind len inPlace taken
    unfold plainBody at taken
    by_cases short : 0 ≤ s ∧ s < len
    · rw [if_pos short] at taken
      exact nomatch taken
    · rw [if_neg short] at taken
      cases taken
      dsimp only
      omega
  unfold elementAt elementBody at found
  split at found
  · cases found
    apply compressed
  · split at found <;> exact plain _ _ _ found
  · cases found
    apply compressed
  · exact plain _ _ _ found
  · cases found
    apply compressed
  · exact plain _ _ _ found
  · exact nomatch found

theorem int32_nonneg_iff {value : Nat} (word : value < 2 ^ 32) :
    0 ≤ int32 value ↔ value < 2 ^ 31 := by
  have wide : ((2 ^ 32 : Nat) : Int) = 4294967296 := rfl
  unfold int32 Int.bmod
  rw [wide]
  dsimp only
  split <;> omega

theorem int32_of_lt {value : Nat} (small : value < 2 ^ 31) : int32 value = value := by
  have wide : ((2 ^ 32 : Nat) : Int) = 4294967296 := rfl
  unfold int32 Int.bmod
  rw [wide]
  dsimp only
  split <;> omega

theorem recv_inside_iff (kind : Kind) (more : Int) (record : List Access) :
    (∀ access ∈ recv kind more record, datagram.Inside filters access) ↔
      more < kind.entries → 0 ≤ more ∧ ∀ access ∈ record, datagram.Inside filters access := by
  unfold recv
  by_cases refused : (kind.entries : Int) ≤ more
  · rw [if_pos refused]
    exact ⟨fun _ accepted => absurd refused (Int.not_le.mpr accepted),
      fun _ access none => absurd none List.not_mem_nil⟩
  · rw [if_neg refused, List.forall_mem_cons]
    have accepted := Int.not_le.mp refused
    exact ⟨fun inside _ => ⟨inside.1.1, inside.2⟩,
      fun inside => ⟨⟨(inside accepted).1, accepted⟩, (inside accepted).2⟩⟩

/-- A body within the packet is handled inside its bounds unless it loads an id
that is negative. -/
theorem accesses_inside_iff {body : Body} {offset : Nat} (more : Int)
    (within : offset + body.consumed ≤ datagram.size) :
    (∀ access ∈ body.accesses offset more, datagram.Inside filters access) ↔
      (body.load.isSome → 0 ≤ more) := by
  have record : ∀ access ∈ [Access.read offset body.consumed],
      datagram.Inside filters access := by
    intro access member
    rw [List.mem_singleton.mp member]
    exact within
  have positive : ∀ kind : Kind, (0 : Int) ≤ kind.entries := fun kind => Int.natCast_nonneg _
  have loaded : ∀ kind (rest : List Access), (∀ access ∈ rest, datagram.Inside filters access) →
      ((∀ access ∈ recv kind more rest, datagram.Inside filters access) ↔ 0 ≤ more) := by
    intro kind rest inside
    rw [recv_inside_iff]
    have bound := positive kind
    constructor
    · intro accepted
      by_cases refused : (kind.entries : Int) ≤ more
      · exact bound.trans refused
      · exact (accepted (Int.not_le.mp refused)).1
    · exact fun nonneg _ => ⟨nonneg, inside⟩
  unfold Body.accesses
  dsimp only
  cases body.load with
  | none => exact ⟨fun _ => nofun, fun _ => record⟩
  | some kind =>
      dsimp only
      split
      · rw [loaded kind _ record]
        exact ⟨fun nonneg _ => nonneg, fun nonneg => nonneg rfl⟩
      · rw [List.forall_mem_append, loaded kind [] nofun]
        exact ⟨fun inside _ => inside.2, fun nonneg => ⟨record, nonneg rfl⟩⟩

/-- **The element loop.** It stays inside its bounds exactly when the elements fit. -/
theorem elementLoop_inside_iff (hbVer : Nat) {p left : Nat} (whole : p + left = datagram.size) :
    (∀ access ∈ elementLoop sizes datagram hbVer p left, datagram.Inside filters access) ↔
      ElementsFit sizes datagram hbVer p left := by
  induction left using Nat.strong_induction_on generalizing p with
  | _ left ih =>
      rw [elementLoop, ElementsFit]
      by_cases done : left = 0
      · rw [if_neg (by omega), if_pos done]
        exact ⟨fun _ => trivial, fun _ access none => absurd none List.not_mem_nil⟩
      rw [if_pos (by omega), if_neg done, List.forall_mem_cons, List.forall_mem_cons]
      by_cases short : left < 8
      · rw [if_pos short]
        constructor
        · rintro ⟨first, second, _⟩
          have bound : p + 4 + 4 ≤ datagram.size := second
          omega
        · exact False.elim
      have words : datagram.Inside filters (.read p 4) ∧
          datagram.Inside filters (.read (p + 4) 4) :=
        ⟨show p + 4 ≤ datagram.size by omega, show p + 4 + 4 ≤ datagram.size by omega⟩
      have behind : (left : Int) - 8 = ((left - 8 : Nat) : Int) := by omega
      rw [if_neg short, behind]
      cases found : elementAt sizes datagram hbVer p ((left - 8 : Nat) : Int) with
      | none => exact ⟨fun _ => trivial, fun _ => ⟨words.1, words.2, nofun⟩⟩
      | some body =>
          have consumed := elementAt_consumed (by omega) found
          have rest : ((left - 8 : Nat) : Int) - body.consumed =
              ((left - 8 - body.consumed : Nat) : Int) := by omega
          dsimp only
          rw [rest, List.forall_mem_append, accesses_inside_iff _ (by omega),
            int32_nonneg_iff (word_lt _), ih (left - 8 - body.consumed) (by omega) (by omega)]
          exact ⟨fun inside => inside.2.2, fun inside => ⟨words.1, words.2, inside⟩⟩

/-- Byte counters are handled inside their bounds up to session `MAXSESSION`. -/
theorem clusterHandleBytes_inside_iff {p left : Nat} (whole : p + left = datagram.size) :
    (∀ access ∈ clusterHandleBytes datagram p left, datagram.Inside filters access) ↔
      CountersFit datagram p left := by
  induction left using Nat.strong_induction_on generalizing p with
  | _ left ih =>
      rw [clusterHandleBytes, CountersFit]
      by_cases more : 20 ≤ left
      · rw [if_pos more, if_pos more, List.forall_mem_cons]
        have id : datagram.Inside filters (.read p 4) := show p + 4 ≤ datagram.size by omega
        by_cases refused : maxSession < datagram.word p
        · rw [if_pos refused]
          exact ⟨fun _ => .inl refused, fun _ => ⟨id, nofun⟩⟩
        · rw [if_neg refused, List.forall_mem_cons, List.forall_mem_cons,
            ih (left - 20) (by omega) (by omega)]
          have record : datagram.Inside filters (.read (p + 4) 16) :=
            show p + 4 + 16 ≤ datagram.size by omega
          constructor
          · rintro ⟨_, entry, _, rest⟩
            exact .inr ⟨Int.ofNat_lt.mp entry.2, rest⟩
          · rintro (higher | ⟨inside, rest⟩)
            · exact absurd higher refused
            · exact ⟨id, ⟨Int.natCast_nonneg _, Int.ofNat_lt.mpr inside⟩, record, rest⟩
      · rw [if_neg more, if_neg more]
        exact ⟨fun _ => trivial, fun _ => nofun⟩

theorem clusterProcessHeartbeat_inside_iff (node : Node) (addr : Nat)
    (header : 8 ≤ datagram.size) :
    (∀ access ∈ clusterProcessHeartbeat sizes datagram node addr,
        datagram.Inside filters access) ↔
      (5 ≤ datagram.word 4 → datagram.word 4 ≤ hbVersion → datagram.size ≤ maxHeartSize →
        8 + sizes.heart ≤ datagram.size → datagram.accepts node addr →
          ElementsFit sizes datagram (datagram.word 4) (8 + sizes.heart)
            (datagram.size - 8 - sizes.heart)) := by
  unfold clusterProcessHeartbeat
  dsimp only
  by_cases version : datagram.word 4 < 5 ∨ hbVersion < datagram.word 4
  · rw [if_pos version]
    exact ⟨fun _ old new => by omega, fun _ => nofun⟩
  rw [if_neg version]
  by_cases oversize : maxHeartSize < datagram.size
  · rw [if_pos oversize]
    exact ⟨fun _ _ _ small => by omega, fun _ => nofun⟩
  rw [if_neg oversize]
  by_cases short : datagram.size - 8 < sizes.heart
  · rw [if_pos short]
    exact ⟨fun _ _ _ _ whole => by omega, fun _ => nofun⟩
  rw [if_neg short, List.forall_mem_cons]
  have heart : datagram.Inside filters (.read 8 sizes.heart) :=
    show 8 + sizes.heart ≤ datagram.size by omega
  by_cases accepted : datagram.accepts node addr = true
  · have saved : datagram.Inside filters (.read 0 datagram.size) :=
      show 0 + datagram.size ≤ datagram.size by omega
    rw [if_pos accepted, List.forall_mem_cons, elementLoop_inside_iff _ (by omega)]
    constructor
    · exact fun inside _ _ _ _ _ => inside.2.2
    · exact fun fit => ⟨heart, saved,
        fit (by omega) (by omega) (by omega) (by omega) accepted⟩
  · rw [if_neg accepted]
    exact ⟨fun _ _ _ _ _ accepts => absurd accepts accepted, fun _ => ⟨heart, nofun⟩⟩

theorem tbfQueuePacket_inside_iff (id : Nat) (word : id < 2 ^ 32) :
    (∀ access ∈ tbfQueuePacket filters (int32 id), datagram.Inside filters access) ↔
      (id ≠ 0 → id < 2 ^ 31 → filters ≠ some id) := by
  have sign := int32_nonneg_iff word
  cases filters with
  | none => exact ⟨fun _ _ _ => nofun, fun _ => nofun⟩
  | some count =>
      unfold tbfQueuePacket
      dsimp only
      by_cases refused : (count : Int) < int32 id ∨ int32 id < 1
      · rw [if_pos refused]
        refine ⟨fun _ nonzero small same => ?_, fun _ => nofun⟩
        have value := int32_of_lt small
        cases same
        omega
      · rw [if_neg refused]
        have small : id < 2 ^ 31 := sign.mp (by omega)
        have value : int32 id = id := int32_of_lt small
        constructor
        · rintro inside nonzero _ same
          obtain ⟨size, allocated, _, below⟩ := inside _ List.mem_cons_self
          cases same
          cases allocated
          omega
        · intro differ access member
          rw [List.mem_singleton.mp member]
          refine ⟨count, rfl, by omega, ?_⟩
          have other : count ≠ id := fun same =>
            differ (by omega) small (congrArg some same)
          omega

/-- **Parsing inside the bounds.** A packet of any length is read inside the
received bytes only, and its ids are used inside their tables only, exactly when
it is looped back, too short for its two words, or well formed. -/
theorem processcluster_inside_iff (sizes : WireSizes) (datagram : Received) (node : Node)
    (filters : Option Nat) (addr : Nat) :
    (∀ access ∈ processcluster sizes datagram node filters addr,
        datagram.Inside filters access) ↔
      addr = node.myAddress ∨ datagram.size < 8 ∨
        WellFormed sizes datagram node filters addr := by
  unfold processcluster
  by_cases looped : addr = node.myAddress
  · rw [if_pos looped]
    exact ⟨fun _ => .inl looped, fun _ => nofun⟩
  rw [if_neg looped]
  by_cases short : datagram.size < 8
  · rw [if_pos short]
    exact ⟨fun _ => .inr (.inl short), fun _ => nofun⟩
  rw [if_neg short, List.forall_mem_cons, List.forall_mem_cons]
  have words : datagram.Inside filters (.read 0 4) ∧ datagram.Inside filters (.read 4 4) :=
    ⟨show 0 + 4 ≤ datagram.size by omega, show 4 + 4 ≤ datagram.size by omega⟩
  have strip : ∀ (accesses : List Access) (fit : Prop),
      ((∀ access ∈ accesses, datagram.Inside filters access) ↔ fit) →
      (datagram.Inside filters (.read 0 4) ∧ datagram.Inside filters (.read 4 4) ∧
        (∀ access ∈ accesses, datagram.Inside filters access) ↔
          addr = node.myAddress ∨ datagram.size < 8 ∨ fit) := by
    intro accesses fit same
    rw [same]
    constructor
    · exact fun inside => .inr (.inr inside.2.2)
    · rintro (same | few | fit)
      · exact absurd same looped
      · exact absurd few short
      · exact ⟨words.1, words.2, fit⟩
  have read : ∀ offset len, offset + len ≤ datagram.size →
      ∀ access ∈ [Access.read offset len], datagram.Inside filters access := by
    intro offset len within access member
    rw [List.mem_singleton.mp member]
    exact within
  have forwarded : (∀ access ∈ [Access.read 8 4], datagram.Inside filters access) ↔
      12 ≤ datagram.size :=
    ⟨fun inside => inside _ List.mem_cons_self, fun whole => read 8 4 whole⟩
  have onMaster : ∀ (accesses : List Access) (fit : Prop),
      ((∀ access ∈ accesses, datagram.Inside filters access) ↔ fit) →
      ((∀ access ∈ if node.iamMaster = true then accesses else [],
        datagram.Inside filters access) ↔ (node.iamMaster = true → fit)) := by
    intro accesses fit same
    by_cases master : node.iamMaster = true
    · rw [if_pos master, same]
      exact ⟨fun fits _ => fits, fun fits => fits master⟩
    · rw [if_neg master]
      exact ⟨fun _ here => absurd here master, fun _ => nofun⟩
  apply strip
  unfold WellFormed
  split
  · rename_i type
    rw [type]
    exact clusterProcessHeartbeat_inside_iff node addr (Nat.le_of_not_lt short)
  · rename_i type
    rw [type]
    exact ⟨fun _ => trivial, fun _ => read 8 _ (by omega)⟩
  · rename_i type
    rw [type]
    exact onMaster _ _ forwarded
  · rename_i type
    rw [type]
    exact onMaster _ _ forwarded
  · rename_i type
    rw [type]
    exact onMaster _ _ (clusterHandleBytes_inside_iff (by omega))
  · rename_i type
    rw [type]
    exact onMaster _ _ (tbfQueuePacket_inside_iff _ (word_lt 4))
  · rename_i type
    rw [type]
    rw [onMaster _ True ⟨fun _ => trivial, fun _ => read 8 _ (by omega)⟩]
    exact ⟨fun _ => trivial, fun _ _ => trivial⟩
  · rename_i other1 _ other9 other16 other10 other11 _
    refine ⟨fun _ => ?_, fun _ => nofun⟩
    split
    · exact (other1 ‹_›).elim
    · exact (other9 ‹_›).elim
    · exact (other16 ‹_›).elim
    · exact (other10 ‹_›).elim
    · exact (other11 ‹_›).elim
    · trivial

/-- A forwarded packet that ends behind its address. -/
def cutForward : Received := ⟨[9, 0, 0, 0, 10, 0, 0, 1], fun _ => 0⟩

/-- Its port is read behind the end of the packet. -/
theorem processcluster_outside :
    ¬ ∀ (sizes : WireSizes) (datagram : Received) (node : Node) (filters : Option Nat)
      (addr : Nat), ∀ access ∈ processcluster sizes datagram node filters addr,
        datagram.Inside filters access := by
  intro always
  have port := always ⟨128, 1000, 300, 300, 900, 900, 900⟩ cutForward
    { clusterInit 1 2 3 5 150 0 0 with iamMaster := true } none 4 (.read 8 4) (by decide)
  exact absurd port (by decide : ¬ 8 + 4 ≤ 8)

end Received

end L2tpns.Cluster
