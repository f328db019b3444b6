import L2tpns.Multilink.Bounds

/-! # Sequence numbers of fragments

A fragment carries the low 24 bits of its sequence number. `processmpin` puts the high bits of a
reference in front of them, and goes a block up or down if the reference is more than half a block
away. So it finds the number of each fragment that is less than half a block away from the
reference, over the ends of blocks and of the 32 bits
(`L2tpns.Multilink.expandSeq_exact`), and stores the fragment at its distance from the start of
the ring (`L2tpns.Multilink.fragments_expanded`).
-/

namespace L2tpns.Multilink

open Avp (Memory)

theorem signed_eq (n : UInt32) :
    signed n = if n.toNat < 2 ^ 31 then (n.toNat : Int) else n.toNat - 2 ^ 32 := by
  have cut := BitVec.toInt_eq_toNat_cond n.toBitVec
  change n.toBitVec.toInt = _
  rw [cut]
  change (if 2 * n.toNat < 2 ^ 32 then (n.toNat : Int) else (n.toNat : Int) - ↑(2 ^ 32)) = _
  split_ifs <;> omega

theorem expanded_toNat (m : UInt32) {seq : UInt32} (low : seq.toNat < 2 ^ 24) :
    (seq ||| (m &&& ~~~((2 ^ 24 : UInt32) - 1))).toNat = m.toNat / 2 ^ 24 * 2 ^ 24 + seq.toNat := by
  have ones : (~~~((2 ^ 24 : UInt32) - 1)).toBitVec = BitVec.allOnes 32 <<< 24 := by decide
  have small := m.toNat_lt
  have high : (m &&& ~~~((2 ^ 24 : UInt32) - 1)).toNat = m.toNat / 2 ^ 24 * 2 ^ 24 := by
    rw [← UInt32.toNat_toBitVec, UInt32.toBitVec_and, ones, ← BitVec.shiftLeft_ushiftRight,
      BitVec.toNat_shiftLeft, BitVec.toNat_ushiftRight, UInt32.toNat_toBitVec,
      Nat.shiftRight_eq_div_pow, Nat.shiftLeft_eq, Nat.mod_eq_of_lt (by omega)]
  rw [UInt32.toNat_or, high, Nat.mul_comm, Nat.two_pow_add_eq_or_of_lt low, Nat.or_comm]

theorem low_toNat (x : UInt32) : (x &&& 0xFFFFFF).toNat = x.toNat % 2 ^ 24 := by
  rw [UInt32.toNat_and]
  exact Nat.and_two_pow_sub_one_eq_mod x.toNat 24

/-- **Sequence numbers** are found from their low 24 bits if they are less than half a block away
from the reference. -/
theorem expandSeq_exact {m x : UInt32} (behind : -2 ^ 23 < signed (x - m))
    (ahead : signed (x - m) < 2 ^ 23) : expandSeq m (2 ^ 24) (x &&& 0xFFFFFF) = x := by
  have low := low_toNat x
  have expanded := @expanded_toNat m (x &&& 0xFFFFFF) (by omega)
  rw [low] at expanded
  have half : signed (((2 ^ 24 : UInt32) - 1) >>> 1) = 2 ^ 23 - 1 := by decide
  have block : ((2 ^ 24 : UInt32) - 1 + 1).toNat = 2 ^ 24 := by decide
  have small := m.toNat_lt
  have size := x.toNat_lt
  rw [signed_eq, UInt32.toNat_sub] at behind ahead
  simp only [expandSeq, half]
  generalize (x &&& 0xFFFFFF) ||| (m &&& ~~~((2 ^ 24 : UInt32) - 1)) = seq at expanded ⊢
  -- the block of the reference, the one above or the one below
  split_ifs with above below
  · rw [signed_eq, UInt32.toNat_sub] at above
    rw [← UInt32.toNat_inj, UInt32.toNat_add, block]
    split_ifs at behind ahead above <;> omega
  · rw [signed_eq, UInt32.toNat_sub] at above below
    rw [← UInt32.toNat_inj, UInt32.toNat_sub, block]
    split_ifs at behind ahead above below <;> omega
  · rw [signed_eq, UInt32.toNat_sub] at above below
    rw [← UInt32.toNat_inj]
    split_ifs at behind ahead above below <;> omega

variable {memory : Memory} {links : Links} {receiver : Receiver} {s t p l : Nat} {x : UInt32}

theorem receivedSeq_carries (header : (memory (p + 1)).toNat * 2 ^ 16 +
    (memory (p + 2)).toNat * 2 ^ 8 + (memory (p + 3)).toNat = x.toNat % 2 ^ 24) :
    receivedSeq true memory p = x &&& 0xFFFFFF := by
  rw [receivedSeq, if_pos rfl, header, ← low_toNat, UInt32.ofNat_toNat]

theorem clearIf_start (ring : Fragmentation) (lost : Bool) (i : Index) :
    (ring.clearIf lost i).startIndex = ring.startIndex ∧
      (ring.clearIf lost i).startSeq = ring.startSeq := by
  cases lost <;> exact ⟨rfl, rfl⟩

theorem insert_start (tracked : Tracked) (index : Index) (fragment : Fragment) :
    (tracked.insert index fragment).stored = some index ∧
      (tracked.insert index fragment).lastSeq = tracked.lastSeq ∧
      (tracked.insert index fragment).ring.startIndex = tracked.ring.startIndex ∧
      (tracked.insert index fragment).ring.startSeq = tracked.ring.startSeq := by
  simp only [Tracked.insert]
  split_ifs
  · exact ⟨rfl, rfl, (clearIf_start _ _ _).1, (clearIf_start _ _ _).2⟩
  · refine ⟨rfl, rfl, ?_, ?_⟩
    · rw [(clearIf_start _ _ _).1, (clearIf_start _ _ _).1]
      rfl
    · rw [(clearIf_start _ _ _).2, (clearIf_start _ _ _).2]
      rfl

theorem track_expanded (bundle : Bundle) (lastSeq : Nat → UInt32) (ring : Fragmentation) (s : Nat)
    (received : UInt32) :
    let tracked := track bundle lastSeq ring s received
    tracked.seq = expandSeq ring.m bundle.maxSeq received ∧
      tracked.offset = signed (tracked.seq - tracked.ring.startSeq) ∧
      tracked.lastSeq s = tracked.seq := by
  simp only [track]
  split_ifs <;> exact ⟨rfl, rfl, Function.update_self _ _ _⟩

/-- A fragment is placed as far from the start of the ring as its number is from the first. -/
structure PlacedAt (placed : Placed) (s : Nat) (x : UInt32) (index : Index) : Prop where
  seq : (placed.ring.fragment index).seq = x
  lastSeq : placed.lastSeq s = x
  near : 0 ≤ signed (x - placed.ring.startSeq) ∧ signed (x - placed.ring.startSeq) < maxFragNum
  index : index =
    masked ((signed (x - placed.ring.startSeq)).toNat + placed.ring.startIndex.val)

theorem place_expanded {index : Index}
    (expands : expandSeq (receiver.frag (links.bundleOf s)).m
      (links.bundle (links.bundleOf s)).maxSeq (receivedSeq links.littleEndian memory p) = x)
    (stored : index ∈ (place links receiver s t memory p l).stored) :
    PlacedAt (place links receiver s t memory p l) s x index := by
  by_cases stores : Stores links receiver s memory p l
  · obtain ⟨i, here, fragment⟩ := @place_stored memory links receiver s t p l stores
    obtain ⟨seq, offset, last⟩ := track_expanded (links.bundle (links.bundleOf s))
      receiver.lastSeq (receiver.frag (links.bundleOf s)) s
      (receivedSeq links.littleEndian memory p)
    obtain ⟨short, bundled, low, high⟩ := stores
    have window := not_or.mpr ⟨Int.not_lt.mpr low, Int.not_le.mpr high⟩
    rw [expands] at seq
    rw [seq] at offset last fragment
    obtain rfl := Option.some.inj (here.symm.trans stored)
    refine ⟨by rw [fragment], ?_, ?_, ?_⟩
    all_goals
      simp only [place] at here ⊢
      rw [if_neg (Nat.not_lt.mpr short), if_neg bundled, if_neg window] at here ⊢
    · rw [(insert_start _ _ _).2.1]
      exact last
    · rw [(insert_start _ _ _).2.2.2, ← offset]
      exact ⟨low, high⟩
    · rw [(insert_start _ _ _).1] at here
      rw [(insert_start _ _ _).2.2.1, (insert_start _ _ _).2.2.2, ← offset]
      exact (Option.some.inj here).symm
  · rw [(place_dropped stores).1] at stored
    cases stored

/-- **Sequence numbers of fragments** are expanded to the true ones, for every reference and every
number less than half a block away from it; and a fragment with such a number is placed at its
distance from the start of the ring. -/
theorem fragments_expanded :
    (∀ m x : UInt32, -2 ^ 23 < signed (x - m) → signed (x - m) < 2 ^ 23 →
      expandSeq m (2 ^ 24) (x &&& 0xFFFFFF) = x) ∧
      ∀ (links : Links) (receiver : Receiver) (s t : Nat) (memory : Memory) (p l : Nat)
        (x : UInt32),
        let m := (receiver.frag (links.bundleOf s)).m
        (links.bundle (links.bundleOf s)).maxSeq = 2 ^ 24 →
        receivedSeq links.littleEndian memory p = x &&& 0xFFFFFF →
        -2 ^ 23 < signed (x - m) → signed (x - m) < 2 ^ 23 →
          ∀ index ∈ (place links receiver s t memory p l).stored,
            PlacedAt (place links receiver s t memory p l) s x index := by
  refine ⟨fun m x => expandSeq_exact, ?_⟩
  intro links receiver s t memory p l x m maxSeq carries behind ahead index stored
  apply place_expanded _ stored
  rw [maxSeq, carries]
  exact expandSeq_exact behind ahead

/-- The number 5 is expanded behind the end of the 32 bits, and the first fragment of a bundle is
placed at the start of the ring. -/
theorem fragments_expanded_around : expandSeq 0xFFFFFFFE (2 ^ 24) (5 &&& 0xFFFFFF) = 5 ∧
    PlacedAt (place oneLink emptyReceiver 2 2 (fun _ => 0) 100 5) 2 0 (masked 0) :=
  ⟨fragments_expanded.1 0xFFFFFFFE 5 (by decide) (by decide),
    fragments_expanded.2 oneLink emptyReceiver 2 2 (fun _ => 0) 100 5 0 rfl
      (receivedSeq_carries (by decide)) (by decide) (by decide) (masked 0) (by decide)⟩

end L2tpns.Multilink
