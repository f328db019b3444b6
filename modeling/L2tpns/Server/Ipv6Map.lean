import L2tpns.Foundation.PrefixMap
import L2tpns.Server.AddressPool

/-! # The IPv6 map as a map on prefixes

The map stores a prefix under its whole half bytes, and a lookup stops at the
first node on its way that has a session. It resolves an address as a table of
longest prefixes does exactly when no shorter or rounded prefix hides the
longest one and no removal took its node away
(`L2tpns.Server.lookupIpv6map_longest_iff`).
-/

namespace L2tpns.Server

open Foundation PrefixMap

/-- The arguments of a call of `cache_ipv6map`. -/
structure MapCall where
  ip : BitVec 128
  prefixlen : Nat
  session : Nat
  positive : 1 ≤ prefixlen
  within : prefixlen ≤ 128

/-- The map after calls, from an empty one. -/
def cacheCalls (calls : List MapCall) : Ipv6Hash :=
  calls.foldl (fun ipv6Hash call =>
    cacheIpv6map ipv6Hash call.ip.toNat call.prefixlen call.session) (PrefixTree.leaf 0)

def prefixStores (calls : List MapCall) : List (PrefixStore Nat) :=
  calls.map fun call => ⟨call.ip.toNat, call.prefixlen, call.session⟩

/-- The calls as stores to whole half bytes, of which there is at least one. -/
def nibbleStores (calls : List MapCall) : List (PrefixStore Nat) :=
  calls.map fun call => ⟨call.ip.toNat, 4 * max 1 (call.prefixlen / 4), call.session⟩

/-- The session of the longest prefix present that covers an address. -/
def longestPrefix (calls : List MapCall) (ip : BitVec 128) : Nat :=
  longest 128 0 (prefixStores calls) ip.toNat

/-- What was stored last under the first `count` half bytes of an address. -/
def underNibbles (calls : List MapCall) (ip : BitVec 128) (count : Nat) : Nat :=
  held 128 0 (nibbleStores calls) (4 * count) ip.toNat

theorem nibbles_length (ip count : Nat) : (nibbles ip count).length = count := by
  rw [nibbles, List.length_map, List.length_range]

variable {count : Nat} (calls : List MapCall)

/-- Addresses have the same half bytes if they have the same bits. -/
theorem nibbles_eq_iff (ip other : BitVec 128) (within : count ≤ 32) :
    nibbles ip.toNat count = nibbles other.toNat count ↔
      Agree 128 (4 * count) ip.toNat other.toNat := by
  unfold Agree
  induction count with
  | zero =>
      constructor
      · intro _
        rw [Nat.div_eq_of_lt ip.isLt, Nat.div_eq_of_lt other.isLt]
      · exact fun _ => rfl
  | succ count ih =>
      have wider : 128 - 4 * count = 128 - 4 * (count + 1) + 4 := by omega
      have place : 4 * (31 - count) = 128 - 4 * (count + 1) := by omega
      have shorter : ∀ value : Nat, value / 2 ^ (128 - 4 * count) =
          value / 2 ^ (128 - 4 * (count + 1)) / 16 := by
        intro value
        rw [Nat.div_div_eq_div_mul, wider, Nat.pow_add]
      have step := ih (Nat.le_of_succ_le within)
      rw [shorter, shorter] at step
      unfold nibbles at step ⊢
      rw [List.range_succ, List.map_append, List.map_append, List.map_singleton,
        List.map_singleton, place]
      generalize ip.toNat / 2 ^ (128 - 4 * (count + 1)) = first at step ⊢
      generalize other.toNat / 2 ^ (128 - 4 * (count + 1)) = second at step ⊢
      constructor
      · intro same
        obtain ⟨before, last⟩ := List.append_inj' same rfl
        have high := step.mp before
        have low := (List.cons.inj last).1
        omega
      · intro same
        rw [step.mpr (by rw [same]), same]

theorem nibbles_take (ip : Nat) (within : count ≤ 32) :
    (nibbles ip 32).take count = nibbles ip count := by
  rw [nibbles, nibbles, ← List.map_take, List.take_range, Nat.min_eq_left within]

theorem cellAt_cacheCalls_root : PrefixTree.cellAt 0 (cacheCalls calls) [] = 0 := by
  induction calls using List.reverseRecOn with
  | nil => rfl
  | append_singleton calls call ih =>
      have below : ([] : List Nat) ≠ nibbles call.ip.toNat (max 1 (call.prefixlen / 4)) := by
        intro empty
        have length := congrArg List.length empty
        rw [nibbles_length, List.length_nil] at length
        omega
      rw [cacheCalls, List.foldl_append, List.foldl_cons, List.foldl_nil, cacheIpv6map,
        PrefixTree.cellAt_insert, if_neg below]
      exact ih

theorem cellAt_cacheCalls (ip : BitVec 128)
    (within : count ≤ 32) : PrefixTree.cellAt 0 (cacheCalls calls) (nibbles ip.toNat count) =
      underNibbles calls ip count := by
  unfold underNibbles nibbleStores
  induction calls using List.reverseRecOn with
  | nil => exact PrefixTree.cellAt_leaf _
  | append_singleton calls call ih =>
      have short := call.within
      have same : nibbles ip.toNat count =
            nibbles call.ip.toNat (max 1 (call.prefixlen / 4)) ↔
          4 * max 1 (call.prefixlen / 4) = 4 * count ∧
            Agree 128 (4 * count) call.ip.toNat ip.toNat := by
        constructor
        · intro equal
          have length := congrArg List.length equal
          rw [nibbles_length, nibbles_length] at length
          rw [← length] at equal
          exact ⟨by omega, (nibbles_eq_iff call.ip ip within).mp equal.symm⟩
        · rintro ⟨length, agree⟩
          rw [Nat.eq_of_mul_eq_mul_left (by decide) length]
          exact ((nibbles_eq_iff call.ip ip within).mpr agree).symm
      rw [cacheCalls, List.foldl_append, List.foldl_cons, List.foldl_nil, cacheIpv6map,
        PrefixTree.cellAt_insert, List.map_append, List.map_singleton, held_append]
      by_cases here : nibbles ip.toNat count = nibbles call.ip.toNat (max 1 (call.prefixlen / 4))
      · rw [if_pos here, if_pos (same.mp here)]
      · rw [if_neg here, if_neg fun both => here (same.mpr both)]
        exact ih

theorem lookupIpv6map_eq (ip : BitVec 128) :
    lookupIpv6map (cacheCalls calls) ip.toNat =
      pick 0 (underNibbles calls ip) (List.range' 1 32) := by
  have whole : List.range (32 + 1) = 0 :: List.range' 1 32 := by
    rw [List.range_eq_range', List.range'_succ]
  rw [lookupIpv6map, PrefixTree.first_eq, firstCell_eq_pick, nibbles_length, whole, pick,
    List.take_zero, if_pos (cellAt_cacheCalls_root calls)]
  apply pick_congr
  intro count inside
  have within := (List.mem_range'_1.mp inside).2
  rw [nibbles_take _ (by omega), cellAt_cacheCalls _ _ (by omega)]

/-- Nothing stored under fewer half bytes hides the longest prefix. -/
def Unhidden (calls : List MapCall) (ip : BitVec 128) : Prop :=
  ∀ count, 1 ≤ count → count ≤ 32 →
    (∀ fewer, 1 ≤ fewer → fewer < count → underNibbles calls ip fewer = 0) →
      underNibbles calls ip count ≠ 0 → underNibbles calls ip count = longestPrefix calls ip

/-- No removal took the node of a prefix that is still present. -/
def Unremoved (calls : List MapCall) (ip : BitVec 128) : Prop :=
  longestPrefix calls ip ≠ 0 → ∃ count, 1 ≤ count ∧ count ≤ 32 ∧ underNibbles calls ip count ≠ 0

/-- **Longest prefixes.** After any calls, a lookup finds the session of the
longest prefix present that covers an address, and none if there is none,
exactly when that prefix is neither hidden nor removed along with another. -/
theorem lookupIpv6map_longest_iff (calls : List MapCall) (ip : BitVec 128) :
    lookupIpv6map (cacheCalls calls) ip.toNat = longestPrefix calls ip ↔
      Unhidden calls ip ∧ Unremoved calls ip := by
  rw [lookupIpv6map_eq]
  obtain ⟨empty, none⟩ | ⟨count, least, most, first, present, found⟩ :=
    pick_cases (underNibbles calls ip) 1 32
  · rw [none]
    constructor
    · intro same
      refine ⟨fun count least most _ present => ?_, fun covered => absurd same.symm covered⟩
      exact absurd (empty count least (by omega)) present
    · rintro ⟨_, unremoved⟩
      by_contra covered
      obtain ⟨count, least, most, present⟩ := unremoved fun equal => covered equal.symm
      exact present (empty count least (by omega))
  · rw [found]
    constructor
    · intro same
      refine ⟨fun other least' _ before present' => ?_,
        fun _ => ⟨count, least, by omega, present⟩⟩
      rcases Nat.lt_trichotomy other count with less | equal | more
      · exact absurd (first other least' less) present'
      · rw [equal]
        exact same
      · exact absurd (before count least more) present
    · rintro ⟨unhidden, _⟩
      exact unhidden count least (by omega) first present

/-- One prefix of five bits. -/
def oddCalls : List MapCall := [⟨0, 5, 7, by decide, by decide⟩]

/-- The last address with the first four bits of the prefix. -/
def oddAddress : BitVec 128 := BitVec.ofNat 128 (2 ^ 124 - 1)

/-- An address outside of a prefix of five bits resolves to its session. -/
theorem lookupIpv6map_outside :
    ¬ ∀ (calls : List MapCall) (ip : BitVec 128),
      lookupIpv6map (cacheCalls calls) ip.toNat = longestPrefix calls ip := by
  intro always
  have found : lookupIpv6map (cacheCalls oddCalls) oddAddress.toNat = 7 := by decide
  have uncovered : longestPrefix oddCalls oddAddress = 0 := by decide
  rw [always, uncovered] at found
  exact absurd found (by decide)

end L2tpns.Server
