import L2tpns.Avp.Memory
import L2tpns.Server.State
import Mathlib.Data.UInt

/-! # Reassembly of multilink frames

`processmpin` puts the fragments of a bundle into a ring, at the place of their sequence number,
looks for a frame that is complete, puts it together in a buffer and hands it to `processmpframe`.
Looking for a frame and putting one together are a loop with two labels, and nothing limits the
iterations but the sequence numbers.

The jitter of a link is left out; nothing is decided on it.
-/

namespace L2tpns.Multilink

open Avp (Memory readBytes writeBytes)
open Foundation
open Server (maxEther)

/-- `MAXFRAGLEN`. -/
def maxFragLen : Nat := 1496

/-- `MAXFRAGNUM`. -/
def maxFragNum : Nat := 512

/-- `MP_BEGIN`. -/
def mpBegin : UInt8 := 0x80

/-- `MP_END`. -/
def mpEnd : UInt8 := 0x40

structure Index where
  val : Nat
  inside : val < maxFragNum
deriving DecidableEq, Repr

/-- `& MAXFRAGNUM_MASK`. -/
def masked (n : Nat) : Index := ⟨n % maxFragNum, Nat.mod_lt n (by decide)⟩

def Index.next (i : Index) : Index := masked (i.val + 1)

def Index.previous (i : Index) : Index := masked (i.val + maxFragNum - 1)

/-- A fragment, with what was copied into its array. It is not there if its length is 0. -/
structure Fragment where
  sid : Nat
  tid : Nat
  flags : UInt8
  seq : UInt32
  length : Nat
  data : List UInt8
deriving DecidableEq, Repr

def Fragment.zero : Fragment := ⟨0, 0, 0, 0, 0, []⟩

/-- The fragments of a bundle, and the buffer for a frame. -/
structure Fragmentation where
  fragment : Index → Fragment
  reassembledFrame : Memory
  reFrameLen : Nat
  reFrameBeginIndex : Index
  reFrameEndIndex : Index
  startIndex : Index
  m : UInt32
  startSeq : UInt32

/-- After `memset`. -/
def Fragmentation.zero : Fragmentation where
  fragment _ := .zero
  reassembledFrame _ := 0
  reFrameLen := 0
  reFrameBeginIndex := masked 0
  reFrameEndIndex := masked 0
  startIndex := masked 0
  m := 0
  startSeq := 0

structure Bundle where
  maxSeq : UInt32
  numOfLinks : Nat
  members : Nat → Nat

/-- The bundles of the sessions, and the byte order of the host. -/
structure Links where
  bundleOf : Nat → Nat
  bundle : Nat → Bundle
  littleEndian : Bool

/-- The rings of all bundles, and the last sequence numbers of the sessions. -/
structure Receiver where
  frag : Nat → Fragmentation
  lastSeq : Nat → UInt32

/-- The sequence number in the header at `p`. -/
def receivedSeq (littleEndian : Bool) (memory : Memory) (p : Nat) : UInt32 :=
  if littleEndian then
    UInt32.ofNat ((memory (p + 1)).toNat * 2 ^ 16 + (memory (p + 2)).toNat * 2 ^ 8 +
      (memory (p + 3)).toNat)
  else
    UInt32.ofNat ((memory p).toNat * 2 ^ 24 + (memory (p + 1)).toNat * 2 ^ 16 +
      (memory (p + 2)).toNat * 2 ^ 8)

/-- A number of 32 bits as an `int`. -/
def signed (n : UInt32) : Int := n.toInt32.toInt

/-- Expand a sequence number to the 32 bits that are next to `m`. -/
def expandSeq (m maxSeq seq : UInt32) : UInt32 :=
  let maskSeq := maxSeq - 1
  let expanded := seq ||| (m &&& ~~~maskSeq)
  if signed (maskSeq >>> 1) < signed (m - expanded) then expanded + (maskSeq + 1)
  else if signed (maskSeq >>> 1) < signed (expanded - m) then expanded - (maskSeq + 1)
  else expanded

/-- The least of the last sequence numbers of the links. -/
def Bundle.leastSeq (bundle : Bundle) (lastSeq : Nat → UInt32) : UInt32 :=
  ((List.range bundle.numOfLinks).drop 1).foldl
    (fun least i => if lastSeq (bundle.members i) < least then lastSeq (bundle.members i)
      else least)
    (lastSeq (bundle.members 0))

/-- The bookkeeping for a fragment: `offset` is its place from the start of the ring on. -/
structure Tracked where
  lastSeq : Nat → UInt32
  ring : Fragmentation
  seq : UInt32
  mMin : UInt32
  offset : Int

/-- Note the sequence number of a fragment of session `s`. After a long break the ring starts
anew at the least number. -/
def track (bundle : Bundle) (lastSeq : Nat → UInt32) (ring : Fragmentation) (s : Nat)
    (received : UInt32) : Tracked :=
  let seq := expandSeq ring.m bundle.maxSeq received
  let noted := Function.update lastSeq s seq
  let mMin := if seq < ring.m then seq else bundle.leastSeq noted
  let mOffset := signed (mMin - ring.startSeq)
  if maxFragNum ≤ mOffset then
    { lastSeq := noted
      ring := { ring with
        m := mMin
        startIndex := masked (mOffset.toNat + ring.startIndex.val)
        startSeq := mMin }
      seq := seq
      mMin := mMin
      offset := signed (seq - mMin) }
  else
    { lastSeq := noted
      ring := { ring with m := mMin }
      seq := seq
      mMin := mMin
      offset := signed (seq - ring.startSeq) }

def Fragmentation.put (ring : Fragmentation) (i : Index) (fragment : Fragment) :
    Fragmentation :=
  { ring with fragment := Function.update ring.fragment i fragment }

/-- A fragment is lost, or used up. -/
def Fragmentation.clear (ring : Fragmentation) (i : Index) : Fragmentation :=
  ring.put i { ring.fragment i with length := 0, flags := 0 }

/-- There is a fragment, and it has another sequence number. -/
def Fragmentation.isStale (ring : Fragmentation) (i : Index) (seq : UInt32) : Bool :=
  decide ((ring.fragment i).length ≠ 0 ∧ (ring.fragment i).seq ≠ seq)

def Fragmentation.clearIf (ring : Fragmentation) (lost : Bool) (i : Index) : Fragmentation :=
  if lost then ring.clear i else ring

/-- What becomes of a fragment: the index that it is stored at, if it is, and whether frames are
looked for. -/
structure Placed where
  lastSeq : Nat → UInt32
  ring : Fragmentation
  mMin : UInt32
  stored : Option Index
  goesOn : Bool

/-- Store the fragment and clean up beside it. No frame is looked for if one is known to be
incomplete. -/
def Tracked.insert (tracked : Tracked) (index : Index) (fragment : Fragment) : Placed :=
  let isBegin : Bool := fragment.flags &&& mpBegin ≠ 0
  let isEnd : Bool := fragment.flags &&& mpEnd ≠ 0
  let inserted := tracked.ring.put index fragment
  let nextLost := decide (index.next ≠ inserted.startIndex) &&
    inserted.isStale index.next (tracked.seq + 1)
  let cleaned := inserted.clearIf nextLost index.next
  if nextLost && isBegin && !isEnd then
    ⟨tracked.lastSeq, cleaned, tracked.mMin, some index, false⟩
  else
    let previousLost := decide (index ≠ cleaned.startIndex) &&
      cleaned.isStale index.previous (tracked.seq - 1)
    ⟨tracked.lastSeq, cleaned.clearIf previousLost index.previous, tracked.mMin, some index,
      !(previousLost && isEnd && !isBegin)⟩

/-- Put the fragment of `l` bytes at `p` into the ring of its bundle. The length loses the header,
as an `uint16_t`. -/
def place (links : Links) (receiver : Receiver) (s t : Nat) (memory : Memory) (p l : Nat) :
    Placed :=
  let b := links.bundleOf s
  let dropped : Placed := ⟨receiver.lastSeq, receiver.frag b, 0, none, false⟩
  if maxFragLen < l then dropped
  else if b = 0 then dropped
  else
    let tracked := track (links.bundle b) receiver.lastSeq (receiver.frag b) s
      (receivedSeq links.littleEndian memory p)
    let length := (l + 2 ^ 16 - 4) % 2 ^ 16
    if tracked.offset < 0 ∨ maxFragNum ≤ tracked.offset then
      ⟨tracked.lastSeq, tracked.ring, tracked.mMin, none, false⟩
    else
      tracked.insert (masked (tracked.offset.toNat + tracked.ring.startIndex.val)) {
        sid := s
        tid := t
        flags := memory p
        seq := tracked.seq
        length := length
        data := readBytes memory (p + 4) length }

/-- A frame for `processmpframe`, with the ring at that time. -/
structure Handed where
  ring : Fragmentation
  length : Nat

/-- Where the search for frames is: at one of its labels, in one of its loops, or at its end. -/
inductive Place where
  | findFrame
  | findBegin (seq : UInt32) (index : Index)
  | findEnd (seq : UInt32) (index : Index)
  | assemblingFrame
  | finished
deriving DecidableEq, Repr

/-- The search, with the frames that it has handed on. -/
structure Search where
  place : Place
  ring : Fragmentation
  handed : List Handed

/-- The indexes from `first` to `last` in the ring. -/
def span (first last : Index) : List Index :=
  (List.range ((last.val + maxFragNum - first.val) % maxFragNum + 1)).map fun k =>
    masked (first.val + k)

/-- From a fragment at `index` on, the first that ends a frame. None if one is missing before it,
or if there is none before the start of the ring. -/
def Fragmentation.frameEnd (ring : Fragmentation) : Nat → Index → Option Index
  | 0, _ => none
  | rounds + 1, index =>
      if (ring.fragment index).length = 0 then none
      else if (ring.fragment index).flags &&& mpEnd ≠ 0 then some index
      else if index.next = ring.startIndex then none
      else ring.frameEnd rounds index.next

/-- Copy fragments to the buffer, behind `length` bytes. The length is none if they are too many. -/
def Fragmentation.assemble (ring : Fragmentation) : List Index → Nat → Memory →
    Option Nat × Memory
  | [], length, buffer => (some length, buffer)
  | i :: rest, length, buffer =>
      let fragment := ring.fragment i
      if maxEther < length + fragment.length then (none, buffer)
      else ring.assemble rest (length + fragment.length)
        (writeBytes buffer length (fragment.data.take fragment.length))

/-- Hand the frame from `first` to `last` on, if it fits. -/
def Search.handOn (search : Search) (first last : Index) : Search :=
  let assembled := search.ring.assemble (span first last) 4 search.ring.reassembledFrame
  let copied := { search.ring with reassembledFrame := assembled.2 }
  match assembled.1 with
  | none => { search with ring := copied }
  | some length =>
      let ring := { copied with
        reFrameLen := length
        reFrameBeginIndex := first
        reFrameEndIndex := last }
      { search with ring := ring, handed := search.handed ++ [⟨ring, length⟩] }

/-- Clear the fragments from `first` to `last` and start the ring behind them. -/
def Fragmentation.use (ring : Fragmentation) (first last : Index) : Fragmentation :=
  let used := (span first last).foldl Fragmentation.clear { ring with reFrameLen := 0 }
  let moved := { used with
    startIndex := last.next
    startSeq := (used.fragment last).seq + 1 }
  moved.clearIf (moved.isStale moved.startIndex moved.startSeq) moved.startIndex

/-- Hand a frame on, use up its fragments, and look for the next frame if there may be one. -/
def Search.finishFrame (search : Search) (mMin : UInt32) (first last : Index) : Search :=
  let handedOn := search.handOn first last
  let next := handedOn.ring.use first last
  if next.startSeq ≤ mMin then { handedOn with place := .findFrame, ring := next }
  else if (next.fragment next.startIndex).length ≠ 0 ∧
      (next.fragment next.startIndex).flags &&& mpBegin ≠ 0 then
    { handedOn with place := .assemblingFrame, ring := next }
  else { handedOn with place := .finished, ring := next }

/-- Put the frame at the start of the ring together. A fragment that does not begin one is
skipped. -/
def Search.assemblingFrame (search : Search) (mMin : UInt32) : Search :=
  let ring := search.ring
  let first := ring.fragment ring.startIndex
  if first.length = 0 then { search with place := .finished }
  else if first.flags &&& mpBegin = 0 then
    { search with
      place := .finished
      ring := { ring with startIndex := ring.startIndex.next, startSeq := ring.startSeq + 1 } }
  else
    match ring.frameEnd maxFragNum ring.startIndex with
    | none => { search with place := .finished }
    | some last => search.finishFrame mMin ring.startIndex last

/-- One iteration of the loop that looks for the begin of a frame. -/
def Search.findBegin (search : Search) (mMin seq : UInt32) (index : Index) : Search :=
  let fragment := search.ring.fragment index
  if seq < mMin then
    if fragment.length = 0 then { search with place := .findBegin (seq + 1) index.next }
    else if seq = fragment.seq then
      if fragment.flags &&& mpBegin ≠ 0 then
        { search with
          place := .findEnd seq index
          ring := { search.ring with startIndex := index, startSeq := seq } }
      else { search with place := .findBegin (seq + 1) index.next }
    else
      { search with
        place := .findBegin (seq + 1) index.next
        ring := search.ring.clear index }
  else { search with place := .assemblingFrame }

/-- One iteration of the loop that looks for the end of a frame. Without one the begin of the next
frame is looked for. -/
def Search.findEnd (search : Search) (mMin seq : UInt32) (index : Index) : Search :=
  let fragment := search.ring.fragment index
  let nextBegin : Place := .findBegin (seq + 1) index.next
  if seq < mMin then
    if fragment.length = 0 then { search with place := nextBegin }
    else if seq = fragment.seq then
      if fragment.flags &&& mpEnd ≠ 0 then { search with place := .assemblingFrame }
      else { search with place := .findEnd (seq + 1) index.next }
    else { search with place := nextBegin, ring := search.ring.clear index }
  else { search with place := nextBegin }

/-- One iteration of the search, which is not at its end. -/
def Search.advance (search : Search) (mMin : UInt32) : Search :=
  match search.place with
  | .findFrame =>
      { search with place := .findBegin search.ring.startSeq search.ring.startIndex }
  | .findBegin seq index => search.findBegin mMin seq index
  | .findEnd seq index => search.findEnd mMin seq index
  | .assemblingFrame => search.assemblingFrame mMin
  | .finished => search

/-- The search up to sequence number `mMin`, which leaves with the ring. -/
def searchLoop (mMin : UInt32) : WhileLoop Search Fragmentation where
  iterate search :=
    if search.place = .finished then .inl search.ring else .inr (search.advance mMin)

/-- The search after a fragment, before its first iteration. -/
def Placed.search (placed : Placed) : Search := ⟨.findFrame, placed.ring, []⟩

/-- `processmpin` returns, with the rings and the last sequence numbers in `next`. -/
def ProcessmpinReturns (links : Links) (receiver : Receiver) (s t : Nat) (memory : Memory)
    (p l : Nat) (next : Receiver) : Prop :=
  let placed := place links receiver s t memory p l
  ∃ ring, next = ⟨Function.update receiver.frag (links.bundleOf s) ring, placed.lastSeq⟩ ∧
    if placed.goesOn then (searchLoop placed.mMin).Returns placed.search ring
    else ring = placed.ring

end L2tpns.Multilink
