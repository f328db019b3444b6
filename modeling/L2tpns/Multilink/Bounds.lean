import L2tpns.Foundation.TransitionSystem
import L2tpns.Multilink.Search

/-! # Bounds of multilink fragments

A fragment is stored with the length that is left behind its header, by a subtraction without a
lower bound. Fragments stay inside of their buffers in every run in which no frame that is stored
is shorter than five bytes (`L2tpns.Multilink.fragments_inside_iff`).
-/

namespace L2tpns.Multilink

open Avp (Memory readBytes writeBytes readBytes_length readBytes_append readBytes_congr
  readBytes_writeBytes writeBytes_before)
open Foundation
open Server (maxEther)

def Fragmentation.contents (ring : Fragmentation) (indexes : List Index) : List UInt8 :=
  indexes.flatMap fun i => (ring.fragment i).data.take (ring.fragment i).length

/-- A frame is inside of the buffer, all of it behind the four bytes that are left free was
written, and each of its fragments was read inside of its array. -/
structure Handed.Inside (frame : Handed) : Prop where
  buffer : 4 ≤ frame.length ∧ frame.length ≤ maxEther
  written : readBytes frame.ring.reassembledFrame 4 (frame.length - 4) =
    frame.ring.contents (span frame.ring.reFrameBeginIndex frame.ring.reFrameEndIndex)
  arrays : ∀ i ∈ span frame.ring.reFrameBeginIndex frame.ring.reFrameEndIndex,
    i.val < maxFragNum ∧ (frame.ring.fragment i).length ≤ maxFragLen

/-- A fragment is stored in the ring with bytes that were received, as many as there is room for,
and all frames that are handed on are inside of the buffer. -/
structure StaysInside (links : Links) (receiver : Receiver) (s t : Nat) (memory : Memory)
    (p l : Nat) : Prop where
  stored : ∀ i, (place links receiver s t memory p l).stored = some i →
    let fragment := (place links receiver s t memory p l).ring.fragment i
    i.val < maxFragNum ∧ 0 < fragment.length ∧ fragment.length ≤ maxFragLen ∧
      p + 4 + fragment.length ≤ p + l ∧ fragment.data = readBytes memory (p + 4) fragment.length
  handed : (place links receiver s t memory p l).goesOn → ∀ search,
    (searchLoop (place links receiver s t memory p l).mMin).Reaches
      (place links receiver s t memory p l).search search →
    ∀ frame ∈ search.handed, frame.Inside

/-- What happens to the rings: a frame is given to `processmpin`, with the bundles that there are
then, a bundle is taken into use, or sessions are changed elsewhere. -/
inductive Action where
  | receive (links : Links) (s t : Nat) (memory : Memory) (p l : Nat)
  | newBundle (b : Nat)
  | changeSessions (lastSeq : Nat → UInt32)

inductive Action.Performs : Receiver → Action → Receiver → Prop where
  | receive {receiver next : Receiver} {links : Links} {s t : Nat} {memory : Memory} {p l : Nat}
      (returns : ProcessmpinReturns links receiver s t memory p l next) :
      Performs receiver (.receive links s t memory p l) next
  | newBundle {receiver : Receiver} {b : Nat} :
      Performs receiver (.newBundle b)
        { receiver with frag := Function.update receiver.frag b .zero }
  | changeSessions {receiver : Receiver} {lastSeq : Nat → UInt32} :
      Performs receiver (.changeSessions lastSeq) { receiver with lastSeq := lastSeq }

/-- All rings are empty at first. -/
def mpSystem : TransitionSystem Receiver Action where
  initial receiver := receiver.frag = fun _ => .zero
  step := fun receiver action next => action.Performs receiver next

/-- The frame is neither too long nor without a bundle, and it is in the window of its ring. -/
def Stores (links : Links) (receiver : Receiver) (s : Nat) (memory : Memory) (p l : Nat) : Prop :=
  let b := links.bundleOf s
  let tracked := track (links.bundle b) receiver.lastSeq (receiver.frag b) s
    (receivedSeq links.littleEndian memory p)
  l ≤ maxFragLen ∧ b ≠ 0 ∧ 0 ≤ tracked.offset ∧ tracked.offset < maxFragNum

/-- A frame that is stored has a byte behind its header. -/
def Action.IsLong (receiver : Receiver) : Action → Prop
  | .receive links s _ memory p l => Stores links receiver s memory p l → 5 ≤ l
  | _ => True

/-- A fragment is not longer than its array, nor than what was copied into it. -/
structure Fragment.Sound (fragment : Fragment) : Prop where
  array : fragment.length ≤ maxFragLen
  copied : fragment.length ≤ fragment.data.length

def Fragmentation.Sound (ring : Fragmentation) : Prop := ∀ i, (ring.fragment i).Sound

variable {ring : Fragmentation} {i first last : Index} {search next : Search}
  {mMin seq : UInt32} {indexes : List Index} {memory buffer : Memory} {length total : Nat}

theorem zero_sound : Fragmentation.zero.Sound := fun _ => ⟨Nat.zero_le _, Nat.le_refl _⟩

theorem clears_sound : Clears Fragment.Sound := fun _ _ => ⟨Nat.zero_le _, Nat.zero_le _⟩

theorem assemble_length (assembled : ring.assemble indexes length memory = (some total, buffer))
    (fits : length ≤ maxEther) : length ≤ total ∧ total ≤ maxEther := by
  induction indexes generalizing length memory with
  | nil =>
      obtain rfl := Option.some.inj (Prod.mk.inj assembled).1
      exact ⟨Nat.le_refl _, fits⟩
  | cons i rest ih =>
      rw [Fragmentation.assemble] at assembled
      split_ifs at assembled with long
      · exact absurd (Prod.mk.inj assembled).1 nofun
      · have more := ih assembled (Nat.le_of_not_lt long)
        exact ⟨by omega, more.2⟩

theorem assemble_before (assembled : ring.assemble indexes length memory = (some total, buffer))
    {k : Nat} (before : k < length) : buffer k = memory k := by
  induction indexes generalizing length memory with
  | nil => rw [(Prod.mk.inj assembled).2]
  | cons i rest ih =>
      rw [Fragmentation.assemble] at assembled
      split_ifs at assembled with long
      · exact absurd (Prod.mk.inj assembled).1 nofun
      · rw [ih assembled (by omega), writeBytes_before _ before]

theorem assemble_contents (sound : ring.Sound)
    (assembled : ring.assemble indexes length memory = (some total, buffer)) :
    readBytes buffer length (total - length) = ring.contents indexes := by
  induction indexes generalizing length memory with
  | nil =>
      obtain rfl := Option.some.inj (Prod.mk.inj assembled).1
      rw [Nat.sub_self]
      rfl
  | cons i rest ih =>
      rw [Fragmentation.assemble] at assembled
      split_ifs at assembled with long
      · exact absurd (Prod.mk.inj assembled).1 nofun
      · have more := assemble_length assembled (Nat.le_of_not_lt long)
        have size : ((ring.fragment i).data.take (ring.fragment i).length).length =
            (ring.fragment i).length := List.length_take_of_le (sound i).copied
        have front : readBytes buffer length (ring.fragment i).length =
            (ring.fragment i).data.take (ring.fragment i).length := by
          have copied := readBytes_writeBytes memory length []
            ((ring.fragment i).data.take (ring.fragment i).length) []
          rw [List.nil_append, List.append_nil, List.length_nil, Nat.add_zero, size] at copied
          rw [← copied]
          exact readBytes_congr fun k small => assemble_before assembled (by omega)
        have split : total - length =
            (ring.fragment i).length + (total - (length + (ring.fragment i).length)) := by omega
        rw [split, readBytes_append, front, ih assembled]
        rfl

theorem hands_inside : Hands Fragment.Sound Handed.Inside := by
  intro ring first last length buffer sound _ assembled
  have written := assemble_contents sound assembled
  exact ⟨assemble_length assembled (by simp [maxEther]), written,
    fun i _ => ⟨i.inside, (sound i).array⟩⟩

theorem Search.Holds.returns (holds : search.Holds Fragment.Sound Handed.Inside)
    (returns : (searchLoop mMin).Returns search ring) : ring.Sound := by
  obtain ⟨final, reached, left⟩ := returns.last
  simp only [searchLoop] at left
  split_ifs at left
  rw [← Sum.inl.inj left]
  exact (holds.reached clears_sound hands_inside reached).ring

theorem put_self (ring : Fragmentation) (i : Index) (fragment : Fragment) :
    (ring.put i fragment).fragment i = fragment := Function.update_self ..

theorem put_other {j : Index} (apart : j ≠ i) (fragment : Fragment) :
    (ring.put i fragment).fragment j = ring.fragment j := Function.update_of_ne apart ..

theorem clearIf_other {j : Index} (apart : j ≠ i) (lost : Bool) :
    (ring.clearIf lost i).fragment j = ring.fragment j := by
  cases lost
  · rfl
  · exact put_other apart _

theorem Index.next_ne (i : Index) : i ≠ i.next := by
  intro same
  have values := congrArg Index.val same
  have inside := i.inside
  simp only [Index.next, masked, maxFragNum] at values inside
  omega

theorem Index.previous_ne (i : Index) : i ≠ i.previous := by
  intro same
  have values := congrArg Index.val same
  have inside := i.inside
  simp only [Index.previous, masked, maxFragNum] at values inside
  omega

variable {tracked : Tracked} {fragment : Fragment}

theorem insert_stored (tracked : Tracked) (i : Index) (fragment : Fragment) :
    (tracked.insert i fragment).stored = some i ∧
      (tracked.insert i fragment).ring.fragment i = fragment := by
  simp only [Tracked.insert]
  split_ifs
  · exact ⟨rfl, (clearIf_other i.next_ne _).trans (put_self _ _ _)⟩
  · exact ⟨rfl, (clearIf_other i.previous_ne _).trans
      ((clearIf_other i.next_ne _).trans (put_self _ _ _))⟩

variable {links : Links} {receiver after : Receiver} {s t p l : Nat}

theorem track_ring (bundle : Bundle) (lastSeq : Nat → UInt32) (ring : Fragmentation) (s : Nat)
    (received : UInt32) :
    (track bundle lastSeq ring s received).ring.fragment = ring.fragment := by
  simp only [track]
  split_ifs <;> rfl

theorem place_dropped (dropped : ¬ Stores links receiver s memory p l) :
    (place links receiver s t memory p l).stored = none ∧
      (place links receiver s t memory p l).ring.fragment =
        (receiver.frag (links.bundleOf s)).fragment ∧
      (place links receiver s t memory p l).goesOn = false := by
  simp only [Stores] at dropped
  simp only [place]
  split_ifs with long alone outside
  · exact ⟨rfl, rfl, rfl⟩
  · exact ⟨rfl, rfl, rfl⟩
  · exact ⟨rfl, track_ring _ _ _ _ _, rfl⟩
  · exact absurd ⟨Nat.le_of_not_lt long, alone, by omega, by omega⟩ dropped

/-- A frame that is stored loses its header. -/
theorem place_stored (stores : Stores links receiver s memory p l) :
    ∃ i, (place links receiver s t memory p l).stored = some i ∧
      (place links receiver s t memory p l).ring.fragment i = {
        sid := s
        tid := t
        flags := memory p
        seq := (track (links.bundle (links.bundleOf s)) receiver.lastSeq
          (receiver.frag (links.bundleOf s)) s (receivedSeq links.littleEndian memory p)).seq
        length := (l + 2 ^ 16 - 4) % 2 ^ 16
        data := readBytes memory (p + 4) ((l + 2 ^ 16 - 4) % 2 ^ 16) } := by
  obtain ⟨short, bundled, low, high⟩ := stores
  have window := not_or.mpr ⟨Int.not_lt.mpr low, Int.not_le.mpr high⟩
  simp only [place]
  rw [if_neg (Nat.not_lt.mpr short), if_neg bundled, if_neg window]
  exact ⟨_, insert_stored _ _ _⟩

/-- A frame keeps what holds of all fragments, if it holds of the new one. -/
theorem place_all {good : Fragment → Prop} (clears : Clears good)
    (all : (receiver.frag (links.bundleOf s)).All good)
    (new : Stores links receiver s memory p l → ∀ seq, good {
      sid := s
      tid := t
      flags := memory p
      seq := seq
      length := (l + 2 ^ 16 - 4) % 2 ^ 16
      data := readBytes memory (p + 4) ((l + 2 ^ 16 - 4) % 2 ^ 16) }) :
    (place links receiver s t memory p l).ring.All good := by
  by_cases stores : Stores links receiver s memory p l
  · have added := new stores
    obtain ⟨short, bundled, low, high⟩ := stores
    have window := not_or.mpr ⟨Int.not_lt.mpr low, Int.not_le.mpr high⟩
    simp only [place]
    rw [if_neg (Nat.not_lt.mpr short), if_neg bundled, if_neg window]
    refine Fragmentation.All.insert (fun i => ?_) clears (added _) _
    rw [track_ring]
    exact all i
  · intro i
    rw [(place_dropped stores).2.1]
    exact all i

theorem stores_length (stores : Stores links receiver s memory p l) (long : 5 ≤ l) :
    (l + 2 ^ 16 - 4) % 2 ^ 16 = l - 4 := by
  have short := stores.1
  rw [maxFragLen] at short
  omega

theorem stores_sound (stores : Stores links receiver s memory p l) (long : 5 ≤ l) (seq : UInt32) :
    Fragment.Sound {
      sid := s
      tid := t
      flags := memory p
      seq := seq
      length := (l + 2 ^ 16 - 4) % 2 ^ 16
      data := readBytes memory (p + 4) ((l + 2 ^ 16 - 4) % 2 ^ 16) } := by
  rw [stores_length stores long]
  exact ⟨Nat.le_trans (Nat.sub_le l 4) stores.1, Nat.le_of_eq (readBytes_length _ _ _).symm⟩

theorem place_sound (sound : (receiver.frag (links.bundleOf s)).Sound)
    (long : Stores links receiver s memory p l → 5 ≤ l) :
    (place links receiver s t memory p l).ring.Sound :=
  place_all clears_sound sound fun stores seq => stores_sound stores (long stores) seq

def Receiver.Sound (receiver : Receiver) : Prop := ∀ b, (receiver.frag b).Sound

theorem Receiver.Sound.update (sound : receiver.Sound) {b : Nat} (new : ring.Sound)
    (lastSeq : Nat → UInt32) : Receiver.Sound ⟨Function.update receiver.frag b ring, lastSeq⟩ := by
  intro other
  by_cases here : other = b
  · subst here
    simpa only [Function.update_self] using new
  · simpa only [Function.update_of_ne here] using sound other

/-- **Step lemma.** A step with frames that are long enough keeps the rings sound. -/
theorem Action.Performs.sound {action : Action} (moves : action.Performs receiver after)
    (sound : receiver.Sound) (long : action.IsLong receiver) : after.Sound := by
  cases moves with
  | @receive _ links s t memory p l returns =>
      obtain ⟨ring, rfl, left⟩ := returns
      have placed := @place_sound memory links receiver s t p l (sound _) long
      refine sound.update ?_ _
      split_ifs at left
      · exact (Placed.search_holds placed).returns left
      · exact left ▸ placed
  | newBundle => exact sound.update zero_sound _
  | changeSessions => exact sound

/-- **Run lemma.** -/
theorem rings_sound
    (reached : mpSystem.ReachableUnder (fun receiver action => action.IsLong receiver) receiver) :
    receiver.Sound :=
  reached.invariant (fun receiver start b => by rw [start]; exact zero_sound)
    fun _ _ _ sound long moves => Action.Performs.sound moves sound long

/-- A frame stays inside exactly if it is long enough to be stored. -/
theorem staysInside_iff (sound : receiver.Sound) :
    StaysInside links receiver s t memory p l ↔
      (Action.receive links s t memory p l).IsLong receiver := by
  constructor
  · intro inside stores
    obtain ⟨i, stored, fragment⟩ := @place_stored memory links receiver s t p l stores
    obtain ⟨_, positive, limited, _⟩ := inside.stored i stored
    rw [fragment] at positive limited
    dsimp only [maxFragLen] at positive limited
    omega
  · intro long
    have placed := @place_sound memory links receiver s t p l (sound _) long
    refine ⟨fun i stored => ?_, fun _ search reached => ?_⟩
    · by_cases stores : Stores links receiver s memory p l
      · have enough := long stores
        have short := stores.1
        obtain ⟨j, there, fragment⟩ := @place_stored memory links receiver s t p l stores
        obtain rfl := Option.some.inj (there.symm.trans stored)
        have length : (l + 2 ^ 16 - 4) % 2 ^ 16 = l - 4 := by
          rw [maxFragLen] at short
          omega
        rw [fragment, length]
        dsimp only
        exact ⟨j.inside, by omega, by omega, by omega, rfl⟩
      · rw [(place_dropped stores).1] at stored
        exact absurd stored nofun
    · exact ((Placed.search_holds placed).reached clears_sound hands_inside reached).handed

/-- **Multilink fragments stay inside their buffers.** In every run in which each frame that is
stored has a byte behind its header, all fragments are inside of their arrays. The next frame
stays inside as well exactly if it meets this condition. -/
theorem fragments_inside_iff (receiver : Receiver)
    (reached : mpSystem.ReachableUnder (fun receiver action => action.IsLong receiver) receiver) :
    (∀ b i, ((receiver.frag b).fragment i).length ≤ maxFragLen) ∧
      ∀ links s t memory p l, StaysInside links receiver s t memory p l ↔
        (Action.receive links s t memory p l).IsLong receiver :=
  ⟨fun b i => (rings_sound reached b i).array, fun _ _ _ _ _ _ =>
    staysInside_iff (rings_sound reached)⟩

/-- Session 2 is the only link of bundle 1. -/
def oneLink : Links where
  bundleOf s := if s = 2 then 1 else 0
  bundle _ := ⟨2 ^ 24, 1, fun _ => 2⟩
  littleEndian := true

def emptyReceiver : Receiver := ⟨fun _ => .zero, fun _ => 0⟩

/-- A frame of a header and one byte. -/
theorem fragments_inside_short :
    StaysInside oneLink emptyReceiver 2 2 (fun _ => 0) 100 5 :=
  ((fragments_inside_iff emptyReceiver (.initial rfl)).2 oneLink 2 2 (fun _ => 0) 100 5).mpr
    fun _ => Nat.le_refl 5

/-- Of a frame of three bytes far more is copied than was received. -/
theorem fragment_of_nothing : ¬ ∀ (receiver : Receiver), mpSystem.Reachable receiver →
    ∀ links s t memory p l, StaysInside links receiver s t memory p l := by
  intro inside
  have stored := (inside emptyReceiver (.initial rfl) oneLink 2 2 (fun _ => 0) 100 3).stored
    (masked 0) (by decide)
  obtain ⟨_, _, limited, _⟩ := stored
  revert limited
  decide

end L2tpns.Multilink
