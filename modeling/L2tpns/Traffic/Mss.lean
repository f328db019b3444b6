import L2tpns.Avp.Memory
import L2tpns.Foundation.InternetChecksum
import L2tpns.Ppp.Automaton
import Mathlib.Tactic.LinearCombination

/-! # Clamping of the TCP MSS

A SYN segment that is forwarded gets the maximum segment size that fits the link, if it asks for
more. `adjust_tcp_mss` looks for the option, writes the two bytes of its value and patches the
checksum without a look at the rest of the segment.

The patch adds the difference of the values as if the option were at an even offset. The segment is
changed as it should be exactly if the option is at one, or the difference does not depend on it, if
the other options are small, and if the last byte of the header is not read as the kind of an option
that has a length (`L2tpns.Traffic.clamp_transparent_iff`).
-/

namespace L2tpns.Traffic

open Function

open Avp (Memory ntohs ntohs_lt readBytes writeBytes)
open Foundation
open Server (bytes16)

/-- An IP packet of `size` bytes at `start`. -/
structure Packet where
  memory : Memory
  start : Nat
  size : Nat
  size_lt : size < 2 ^ 16

namespace Packet

variable (packet : Packet)

/-- The length of the IP header. -/
def ihl : Nat := (packet.memory packet.start).toNat % 2 ^ 4 * 4

/-- Where the TCP header is. -/
def tcp : Nat := packet.start + packet.ihl

/-- Where the TCP header ends. -/
def data : Nat := packet.tcp + (packet.memory (packet.tcp + 12)).toNat / 2 ^ 4 * 4

end Packet

def tcpFlagSyn : UInt8 := 0x02
def tcpFlagAck : UInt8 := 0x10

/-- `IPPROTO_TCP`. -/
def ipprotoTcp : UInt8 := 6

/-- Look for the option from `opts` up to the end of the header: where its value is, if there is
one, and the bytes that are looked at. -/
def findMss (memory : Memory) (data opts : Nat) : Option Nat × List Nat :=
  if opts < data then
    let kind := memory opts
    let length := memory (opts + 1)
    if kind = 2 ∧ length = 4 then
      (if data < opts + 4 then none else some (opts + 2), [opts, opts + 1])
    else if kind = 0 then (none, [opts])
    else if kind = 1 then
      let rest := findMss memory data (opts + 1)
      (rest.1, [opts] ++ rest.2)
    else
      -- an option without a length is skipped like one of a single byte
      let rest := findMss memory data (opts + if length = 0 then 1 else length.toNat)
      (rest.1, [opts, opts + 1] ++ rest.2)
  else (none, [])
termination_by data - opts
decreasing_by
  · omega
  · split
    · omega
    · rename_i nonzero
      have := UInt8.toNat_inj.not.mpr nonzero
      simp only [UInt8.toNat_zero] at this
      omega

/-- The checksum for another value, by the difference of the values (RFC 1141). -/
def patchedChecksum (orig limit checksum : Nat) : Nat :=
  let sum := orig + (0xFFFF - limit) + checksum
  let sum := sum % 2 ^ 16 + sum / 2 ^ 16
  (sum + sum / 2 ^ 16) % 2 ^ 16

/-- Write a number of 16 bits in network order. -/
def putShort (memory : Memory) (p value : Nat) : Memory := writeBytes memory p (bytes16 value)

/-- Neither FIN, RST, PSH nor URG is set. -/
def onlySyn (flags : UInt8) : Bool := (flags &&& 0x3F) &&& ~~~(tcpFlagSyn ||| tcpFlagAck) = 0

/-- `adjust_tcp_mss` with `MSS` as the limit: memory, and what is read. -/
def adjustTcpMss (limit : Nat) (packet : Packet) : Memory × List Nat :=
  let memory := packet.memory
  let tcp := packet.tcp
  if ¬ onlySyn (memory (tcp + 13)) then (memory, [tcp + 12, tcp + 13])
  else if packet.start + packet.size < packet.data then (memory, [tcp + 12, tcp + 13])
  else
    let found := findMss memory packet.data (tcp + 20)
    match found.1 with
    | none => (memory, [tcp + 12, tcp + 13] ++ found.2)
    | some mss =>
        let orig := ntohs memory mss
        let seen := [tcp + 12, tcp + 13] ++ found.2 ++ [mss, mss + 1]
        if orig ≤ limit then (memory, seen)
        else
          let clamped := putShort memory mss limit
          let checksum := ntohs clamped (tcp + 16)
          (putShort clamped (tcp + 16) (patchedChecksum orig limit checksum),
            seen ++ [tcp + 16, tcp + 17])

/-- What `processipin` and `processipout` do about the MSS of a packet. -/
def clamp (limit : Nat) (packet : Packet) : Memory × List Nat :=
  let memory := packet.memory
  if ntohs memory (packet.start + 6) % 2 ^ 13 = 0 ∧ memory (packet.start + 9) = ipprotoTcp then
    if packet.ihl + 20 ≤ packet.size ∧ memory (packet.tcp + 13) &&& tcpFlagSyn ≠ 0 ∧
        5 < (memory (packet.tcp + 12)).toNat / 2 ^ 4 then
      adjustTcpMss limit packet
    else (memory, [])
  else (memory, [])

/-- The size of the option at `opts`; one without a length is a single byte. -/
def optionSize (memory : Memory) (opts : Nat) : Nat :=
  if memory opts = 1 ∨ memory (opts + 1) = 0 then 1 else (memory (opts + 1)).toNat

/-- Options follow one another from `opts` on, up to one of kind 0. -/
inductive HasOption (memory : Memory) (data : Nat) : Nat → Nat → Prop
  | here {opts : Nat} (inside : opts < data) : HasOption memory data opts opts
  | later {opts pos : Nat} (kind : memory opts ≠ 0)
      (behind : HasOption memory data (opts + optionSize memory opts) pos) :
      HasOption memory data opts pos

namespace Packet

variable (packet : Packet)

/-- The packet has an MSS option at `pos`, in its header and in what was received. -/
structure Mss (pos : Nat) : Prop where
  option : HasOption packet.memory packet.data (packet.tcp + 20) pos
  kind : packet.memory pos = 2
  length : packet.memory (pos + 1) = 4
  inside : pos + 4 ≤ packet.data
  received : pos + 4 ≤ packet.start + packet.size

/-- The sum that the TCP checksum is about: addresses, protocol and length, and the segment. -/
def tcpSum (memory : Memory) : Nat :=
  let l := packet.size - packet.ihl
  wordSum (fun k => memory (packet.start + 12 + k)) 8 + ipprotoTcp.toNat + l +
    wordSum (fun k => memory (packet.tcp + k)) l

/-- A TCP segment with SYN and a valid checksum in an IPv4 packet. -/
structure IsSyn : Prop where
  header : 20 ≤ packet.ihl
  size : packet.ihl + 20 ≤ packet.size
  first : ntohs packet.memory (packet.start + 6) % 2 ^ 13 = 0
  protocol : packet.memory (packet.start + 9) = ipprotoTcp
  flag : packet.memory (packet.tcp + 13) &&& tcpFlagSyn ≠ 0
  checksum : foldWords (packet.tcpSum packet.memory) = 0xFFFF

/-- Only the value of one MSS option and the checksum are changed. -/
def ChangesMss (after : Memory) (pos : Nat) : Prop :=
  packet.Mss pos ∧ ∀ k, k ≠ pos + 2 → k ≠ pos + 3 → k ≠ packet.tcp + 16 → k ≠ packet.tcp + 17 →
    after k = packet.memory k

/-- The packet is read inside of itself, its MSS options do not get larger and are within the limit,
nothing else is changed but the checksum, and that is valid. -/
structure Transparent (limit : Nat) : Prop where
  reads : ∀ k ∈ (clamp limit packet).2, packet.start ≤ k ∧ k < packet.start + packet.size
  only : (clamp limit packet).1 = packet.memory ∨
    ∃ pos, packet.ChangesMss (clamp limit packet).1 pos
  lower : ∀ pos, packet.Mss pos →
    ntohs (clamp limit packet).1 (pos + 2) ≤ ntohs packet.memory (pos + 2)
  limited : ∀ pos, packet.Mss pos → ntohs (clamp limit packet).1 (pos + 2) ≤ limit
  checksum : foldWords (packet.tcpSum (clamp limit packet).1) = 0xFFFF

/-- The segment is one that is looked at. -/
def Considered : Prop :=
  onlySyn (packet.memory (packet.tcp + 13)) ∧ packet.data ≤ packet.start + packet.size

/-- No option is at the last byte of a header that ends the packet, unless it has no length, or
the option that is looked for is before it. An option above the limit is considered and the first,
and it is at an even offset, or 257 divides what it is above the limit. -/
structure Aligned (limit : Nat) : Prop where
  ends : packet.Considered → packet.data = packet.start + packet.size →
    ∀ pos, HasOption packet.memory packet.data (packet.tcp + 20) pos → pos + 1 = packet.data →
      packet.memory pos = 0 ∨ packet.memory pos = 1 ∨ ∃ before < pos, packet.Mss before
  first : ∀ pos, packet.Mss pos → limit < ntohs packet.memory (pos + 2) →
    packet.Considered ∧ ∀ other, packet.Mss other → pos ≤ other
  even : ∀ pos, packet.Mss pos → limit < ntohs packet.memory (pos + 2) →
    (pos - packet.tcp) % 2 = 0 ∨ (ntohs packet.memory (pos + 2) - limit) % 257 = 0

end Packet

section Walk

variable {memory : Memory} {data opts pos : Nat}

theorem HasOption.bounds (option : HasOption memory data opts pos) : opts ≤ pos ∧ pos < data := by
  induction option with
  | here inside => exact ⟨Nat.le_refl _, inside⟩
  | later kind behind ih => exact ⟨by omega, ih.2⟩

theorem hasOption_iff :
    HasOption memory data opts pos ↔ opts < data ∧ (pos = opts ∨
      memory opts ≠ 0 ∧ HasOption memory data (opts + optionSize memory opts) pos) := by
  constructor
  · intro option
    refine ⟨by have := option.bounds; omega, ?_⟩
    cases option with
    | here inside => exact .inl rfl
    | later kind behind => exact .inr ⟨kind, behind⟩
  · rintro ⟨inside, rfl | ⟨kind, behind⟩⟩
    · exact .here inside
    · exact .later kind behind

/-- An MSS option that is not cut off by the end of the header. -/
def IsMss (memory : Memory) (data pos : Nat) : Prop :=
  memory pos = 2 ∧ memory (pos + 1) = 4 ∧ pos + 4 ≤ data

/-- What the walk comes to: the first option, or none, and reads up to the end. The byte at the end
is read for an option with a length that begins right before it. -/
structure Walks (memory : Memory) (data opts : Nat) (found : Option Nat) (reads : List Nat) :
    Prop where
  isFound : ∀ mss, found = some mss → ∃ pos, mss = pos + 2 ∧ HasOption memory data opts pos ∧
    IsMss memory data pos ∧
    ∀ other, HasOption memory data opts other → IsMss memory data other → pos ≤ other
  notFound : found = none → ∀ pos, HasOption memory data opts pos → ¬ IsMss memory data pos
  within : ∀ k ∈ reads, opts ≤ k ∧ k ≤ data
  ends : data ∈ reads ↔ ∃ pos, HasOption memory data opts pos ∧ pos + 1 = data ∧
    memory pos ≠ 0 ∧ memory pos ≠ 1 ∧
    ∀ before, before < pos → HasOption memory data opts before → ¬ IsMss memory data before

/-- The walk goes on behind an option that is skipped. -/
theorem Walks.skip {found : Option Nat} {reads own : List Nat} {size : Nat} (inside : opts < data)
    (kind : memory opts ≠ 0) (own_size : optionSize memory opts = size) (positive : 0 < size)
    (other : ¬ IsMss memory data opts)
    (rest : Walks memory data (opts + size) found reads)
    (bounds : ∀ k ∈ own, opts ≤ k ∧ k ≤ data)
    (ends : data ∈ own ↔ opts + 1 = data ∧ memory opts ≠ 1) :
    Walks memory data opts found (own ++ reads) := by
  have option (pos : Nat) : HasOption memory data opts pos ↔
      pos = opts ∨ HasOption memory data (opts + size) pos := by
    rw [hasOption_iff, own_size]
    exact ⟨fun has => has.2.imp_right And.right, fun has => ⟨inside, has.imp_right (⟨kind, ·⟩)⟩⟩
  constructor
  · intro mss isFound
    obtain ⟨pos, at_value, has, isMss, first⟩ := rest.isFound mss isFound
    refine ⟨pos, at_value, (option pos).mpr (.inr has), isMss,
      fun before hasBefore isMssBefore => ?_⟩
    rcases (option before).mp hasBefore with rfl | behind
    · exact absurd isMssBefore other
    · exact first before behind isMssBefore
  · intro isNone pos has isMss
    rcases (option pos).mp has with rfl | behind
    · exact other isMss
    · exact rest.notFound isNone pos behind isMss
  · intro k member
    rcases List.mem_append.mp member with first | later
    · exact bounds k first
    · have := rest.within k later
      omega
  · rw [List.mem_append, ends, rest.ends]
    constructor
    · rintro (⟨last, pad⟩ | ⟨pos, has, last, nonzero, pad, before⟩)
      · refine ⟨opts, .here inside, last, kind, pad, fun before earlier has => ?_⟩
        have := has.bounds
        omega
      · refine ⟨pos, (option pos).mpr (.inr has), last, nonzero, pad, fun k earlier hasBefore => ?_⟩
        rcases (option k).mp hasBefore with rfl | behind
        · exact other
        · exact before k earlier behind
    · rintro ⟨pos, has, last, nonzero, pad, before⟩
      rcases (option pos).mp has with rfl | behind
      · exact .inl ⟨last, pad⟩
      · exact .inr ⟨pos, behind, last, nonzero, pad, fun k earlier later =>
          before k earlier ((option k).mpr (.inr later))⟩

/-- The walk ends at the option. -/
theorem Walks.stop_here (inside : opts < data) (isMss : memory opts = 2 ∧ memory (opts + 1) = 4) :
    Walks memory data opts (if data < opts + 4 then none else some (opts + 2))
      [opts, opts + 1] := by
  have nonzero : memory opts ≠ 0 := by simp [isMss.1]
  have size : optionSize memory opts = 4 := by simp [optionSize, isMss]
  have behind {pos : Nat} (has : HasOption memory data opts pos) : pos = opts ∨ opts + 4 ≤ pos := by
    rw [hasOption_iff, size] at has
    exact has.2.imp_right fun later => later.2.bounds.1
  constructor
  · intro mss found
    split at found
    · cases found
    · exact ⟨opts, (Option.some.inj found).symm, .here inside, ⟨isMss.1, isMss.2, by omega⟩,
        fun other has _ => has.bounds.1⟩
  · intro found pos has own
    have bounds := has.bounds
    have fits := own.2.2
    split at found
    · rcases behind has with rfl | later <;> omega
    · cases found
  · intro k member
    rcases List.mem_pair.mp member with rfl | rfl <;> omega
  · rw [List.mem_pair]
    constructor
    · intro last
      refine ⟨opts, .here inside, by omega, nonzero, by simp [isMss.1],
        fun before earlier has => ?_⟩
      have := has.bounds
      omega
    · rintro ⟨pos, has, last, -, -, before⟩
      rcases behind has with rfl | later
      · exact .inr last.symm
      · exact absurd ⟨isMss.1, isMss.2, by omega⟩ (before opts (by omega) (.here inside))

theorem Walks.stop_last (inside : opts < data) (last : memory opts = 0) :
    Walks memory data opts none [opts] := by
  have only {pos : Nat} (has : HasOption memory data opts pos) : pos = opts := by
    rw [hasOption_iff] at has
    exact has.2.resolve_right fun later => later.1 last
  refine ⟨nofun, fun _ pos has isMss => ?_, fun k member => ?_, ?_⟩
  · rw [only has] at isMss
    exact absurd isMss.1 (by simp [last])
  · rw [List.mem_singleton.mp member]
    omega
  · rw [List.mem_singleton]
    refine iff_of_false (by omega) ?_
    rintro ⟨pos, has, -, nonzero, -⟩
    exact nonzero (only has ▸ last)

/-- **The walk over the options.** One step for each option, with the kinds as cases. -/
theorem findMss_walks (memory : Memory) (data opts : Nat) :
    Walks memory data opts (findMss memory data opts).1 (findMss memory data opts).2 := by
  induction opts using findMss.induct memory data with
  | case1 opts inside kind length isMss =>
      rw [findMss, if_pos inside, if_pos isMss]
      exact .stop_here inside isMss
  | case2 opts inside kind length other last =>
      rw [findMss, if_pos inside, if_neg other, if_pos last]
      exact .stop_last inside last
  | case3 opts inside kind length other more pad ih =>
      rw [findMss, if_pos inside, if_neg other, if_neg more, if_pos pad]
      refine .skip inside more (if_pos (.inl pad)) Nat.one_pos (fun isMss => ?_) ih ?_ ?_
      · exact other ⟨isMss.1, isMss.2.1⟩
      · intro k member
        rw [List.mem_singleton.mp member]
        omega
      · rw [List.mem_singleton]
        exact iff_of_false (by omega) fun ends => ends.2 pad
  | case4 opts inside kind length other more long ih =>
      rw [findMss, if_pos inside, if_neg other, if_neg more, if_neg long]
      have size : optionSize memory opts = if length = 0 then 1 else length.toNat := by
        rw [optionSize]
        exact if_congr (or_iff_right long) rfl rfl
      refine .skip inside more size ?_ (fun isMss => other ⟨isMss.1, isMss.2.1⟩) ih ?_ ?_
      · split
        · exact Nat.one_pos
        · rename_i nonzero
          exact Nat.pos_of_ne_zero fun zero => nonzero (UInt8.toNat_inj.mp zero)
      · intro k member
        rcases List.mem_pair.mp member with rfl | rfl <;> omega
      · rw [List.mem_pair]
        constructor
        · intro last
          exact ⟨by omega, long⟩
        · rintro ⟨last, -⟩
          exact .inr last.symm
  | case5 opts outside =>
      rw [findMss, if_neg outside]
      refine ⟨nofun, fun _ pos has => ?_, nofun, iff_of_false nofun ?_⟩
      · have := has.bounds
        omega
      · rintro ⟨pos, has, -⟩
        have := has.bounds
        omega

theorem optionSize_pos (memory : Memory) (opts : Nat) : 0 < optionSize memory opts := by
  rw [optionSize]
  split
  · exact Nat.one_pos
  · rename_i long
    exact Nat.pos_of_ne_zero fun zero => long (.inr (UInt8.toNat_inj.mp zero))

theorem HasOption.from {other : Nat} (option : HasOption memory data opts pos)
    (has : HasOption memory data opts other) (behind : pos ≤ other) :
    HasOption memory data pos other := by
  induction option with
  | here inside => exact has
  | @later opts pos kind later ih =>
      have positive := optionSize_pos memory opts
      have bounds := later.bounds
      rcases (hasOption_iff.mp has).2 with rfl | next
      · omega
      · exact ih next.2 behind

theorem HasOption.apart {other : Nat} (option : HasOption memory data opts pos)
    (isMss : IsMss memory data pos) (has : HasOption memory data opts other)
    (behind : pos < other) : pos + 4 ≤ other := by
  have size : optionSize memory pos = 4 := by simp [optionSize, isMss.1, isMss.2.1]
  rcases (hasOption_iff.mp (option.from has behind.le)).2 with rfl | next
  · omega
  · rw [size] at next
    exact next.2.bounds.1

end Walk

section Checksum

variable {memory : Memory} {p value k : Nat}

theorem putShort_eq (memory : Memory) (p value : Nat) :
    putShort memory p value =
      update (update memory p (UInt8.ofNat (value / 2 ^ 8))) (p + 1)
        (UInt8.ofNat value) := by
  funext k
  by_cases high : k = p
  · subst high
    simp [putShort, writeBytes, bytes16]
  by_cases low : k = p + 1
  · subst low
    simp [putShort, writeBytes, bytes16]
  rw [update_of_ne low, update_of_ne high]
  by_cases before : k < p
  · exact Avp.writeBytes_before memory before
  · have beyond : p + (bytes16 value).length ≤ k := by
      simp only [bytes16, List.length_cons, List.length_nil]
      omega
    exact Avp.writeBytes_beyond memory beyond

theorem putShort_other (high : k ≠ p) (low : k ≠ p + 1) : putShort memory p value k = memory k := by
  rw [putShort_eq, update_of_ne low, update_of_ne high]

theorem ntohs_putShort (small : value < 2 ^ 16) : ntohs (putShort memory p value) p = value := by
  rw [putShort_eq, ntohs, update_self, update_of_ne (by omega),
    update_self, UInt8.toNat_ofNat', UInt8.toNat_ofNat']
  omega

theorem ntohs_other {q : Nat} (before : q ≠ p) (after : q + 1 ≠ p) (behind : q ≠ p + 1) :
    ntohs (putShort memory p value) q = ntohs memory q := by
  rw [ntohs, ntohs, putShort_other before behind, putShort_other after (by omega)]

theorem wordSum_putShort {tcp l i : Nat} (inside : i + 1 < l) (small : value < 2 ^ 16) :
    (wordSum (fun k => putShort memory (tcp + i) value (tcp + k)) l : Int) ≡
      wordSum (fun k => memory (tcp + k)) l +
        wordFactor i * (value - ntohs memory (tcp + i) : Int) [ZMOD 65535] := by
  have shifted : (fun k => putShort memory (tcp + i) value (tcp + k)) =
      update (update (fun k => memory (tcp + k)) i (UInt8.ofNat (value / 2 ^ 8)))
        (i + 1) (UInt8.ofNat value) := by
    funext k
    rw [putShort_eq]
    simp only [update_apply]
    congr 1
    · exact propext (by omega)
    · congr 1
      exact propext (by omega)
  have written :
      (UInt8.ofNat (value / 2 ^ 8)).toNat * 2 ^ 8 + (UInt8.ofNat value).toNat = value := by
    rw [UInt8.toNat_ofNat', UInt8.toNat_ofNat']
    omega
  have put := @wordSum_put (fun k => memory (tcp + k)) l i inside (UInt8.ofNat (value / 2 ^ 8))
    (UInt8.ofNat value)
  rwa [written, ← shifted] at put

/-- The patch adds the difference of the values. -/
theorem patchedChecksum_mod {orig limit checksum : Nat} (orig_lt : orig < 2 ^ 16)
    (limit_lt : limit < 2 ^ 16) (checksum_lt : checksum < 2 ^ 16) :
    (patchedChecksum orig limit checksum : Int) ≡ checksum + (orig - limit) [ZMOD 65535] ∧
      patchedChecksum orig limit checksum < 2 ^ 16 := by
  simp only [patchedChecksum]
  generalize total : orig + (0xFFFF - limit) + checksum = sum
  generalize once : sum % 2 ^ 16 + sum / 2 ^ 16 = folded
  have bounded : folded ≤ 0x10001 := by omega
  have folds : folded + 65535 * (sum / 2 ^ 16) = sum := by omega
  have twice : (folded + folded / 2 ^ 16) % 2 ^ 16 + 65535 * (folded / 2 ^ 16) = folded := by omega
  refine ⟨Int.modEq_iff_dvd.mpr ⟨sum / 2 ^ 16 + folded / 2 ^ 16 - 1, ?_⟩, by omega⟩
  push_cast
  omega

end Checksum

namespace Packet

variable {packet : Packet} {limit pos : Nat}

theorem Mss.isMss (mss : packet.Mss pos) : IsMss packet.memory packet.data pos :=
  ⟨mss.kind, mss.length, mss.inside⟩

theorem Considered.mss (considered : packet.Considered)
    (option : HasOption packet.memory packet.data (packet.tcp + 20) pos)
    (isMss : IsMss packet.memory packet.data pos) : packet.Mss pos :=
  ⟨option, isMss.1, isMss.2.1, isMss.2.2, isMss.2.2.trans considered.2⟩

theorem Mss.apart {other : Nat} (mss : packet.Mss pos) (has : packet.Mss other)
    (behind : pos < other) : pos + 4 ≤ other :=
  mss.option.apart mss.isMss has.option behind

/-- A segment is transparent that is left as it is, if it is read inside and has no large option. -/
theorem transparent_of_same (syn : packet.IsSyn) (same : (clamp limit packet).1 = packet.memory) :
    packet.Transparent limit ↔
      (∀ k ∈ (clamp limit packet).2, packet.start ≤ k ∧ k < packet.start + packet.size) ∧
        ∀ pos, packet.Mss pos → ntohs packet.memory (pos + 2) ≤ limit := by
  constructor
  · intro transparent
    refine ⟨transparent.reads, fun pos mss => ?_⟩
    have limited := transparent.limited pos mss
    rwa [same] at limited
  · rintro ⟨reads, small⟩
    refine ⟨reads, .inl same, fun pos _ => ?_, fun pos mss => ?_, ?_⟩
    · rw [same]
    · rw [same]
      exact small pos mss
    · rw [same]
      exact syn.checksum

/-- No option is above the limit, if one that is could not be the first. -/
theorem small_iff
    (none : ∀ pos, packet.Mss pos → packet.Considered →
      (∀ other, packet.Mss other → pos ≤ other) → ntohs packet.memory (pos + 2) ≤ limit) :
    (∀ pos, packet.Mss pos → ntohs packet.memory (pos + 2) ≤ limit) ↔
      (∀ pos, packet.Mss pos → limit < ntohs packet.memory (pos + 2) →
        packet.Considered ∧ ∀ other, packet.Mss other → pos ≤ other) ∧
      ∀ pos, packet.Mss pos → limit < ntohs packet.memory (pos + 2) →
        (pos - packet.tcp) % 2 = 0 ∨ (ntohs packet.memory (pos + 2) - limit) % 257 = 0 := by
  constructor
  · intro small
    exact ⟨fun pos mss large => absurd (small pos mss) (by omega),
      fun pos mss large => absurd (small pos mss) (by omega)⟩
  · rintro ⟨first, -⟩ pos mss
    by_contra large
    obtain ⟨considered, least⟩ := first pos mss (by omega)
    exact large (none pos mss considered least)

theorem reads_inside_iff (syn : packet.IsSyn) (considered : packet.Considered)
    {found : Option Nat} {reads more : List Nat}
    (walks : Walks packet.memory packet.data (packet.tcp + 20) found reads)
    (inside : ∀ k ∈ more, packet.tcp ≤ k ∧ k < packet.tcp + 20 ∨
      ∃ pos, packet.Mss pos ∧ (k = pos + 2 ∨ k = pos + 3)) :
    (∀ k ∈ [packet.tcp + 12, packet.tcp + 13] ++ reads ++ more,
      packet.start ≤ k ∧ k < packet.start + packet.size) ↔
      (packet.Considered → packet.data = packet.start + packet.size →
        ∀ pos, HasOption packet.memory packet.data (packet.tcp + 20) pos → pos + 1 = packet.data →
          packet.memory pos = 0 ∨ packet.memory pos = 1 ∨ ∃ before < pos, packet.Mss before) := by
  have header := syn.header
  have size := syn.size
  have tcp : packet.tcp = packet.start + packet.ihl := rfl
  have fits := considered.2
  constructor
  · intro reads_inside _ last pos option ends
    by_contra refused
    simp only [not_or, not_exists, not_and] at refused
    have read : packet.data ∈ reads := walks.ends.mpr ⟨pos, option, ends, refused.1, refused.2.1,
      fun before earlier has isMss => refused.2.2 before earlier (considered.mss has isMss)⟩
    have := (reads_inside _ (List.mem_append_left _ (List.mem_append_right _ read))).2
    omega
  · intro ends k member
    rcases List.mem_append.mp member with seen | last
    · rcases List.mem_append.mp seen with own | walked
      · rcases List.mem_pair.mp own with rfl | rfl <;> omega
      · have bounds := walks.within k walked
        refine ⟨by omega, Nat.lt_of_le_of_ne (by omega) fun equal => ?_⟩
        have at_end : k = packet.data := by omega
        obtain ⟨pos, option, before_end, nonzero, pad, first⟩ := walks.ends.mp (at_end ▸ walked)
        rcases ends considered (by omega) pos option before_end with
          zero | one | ⟨before, less, mss⟩
        · exact nonzero zero
        · exact pad one
        · exact first before less mss.option mss.isMss
    · rcases inside k last with fixed | ⟨pos, mss, value⟩
      · omega
      · have bounds := mss.option.bounds
        have within := mss.received
        omega

/-- Memory after the value at `pos` is clamped. -/
def clamped (packet : Packet) (limit pos : Nat) : Memory :=
  let set := putShort packet.memory (pos + 2) limit
  putShort set (packet.tcp + 16)
    (patchedChecksum (ntohs packet.memory (pos + 2)) limit (ntohs set (packet.tcp + 16)))

theorem clamped_other {k : Nat} (value : k ≠ pos + 2) (low : k ≠ pos + 3)
    (checksum : k ≠ packet.tcp + 16) (last : k ≠ packet.tcp + 17) :
    packet.clamped limit pos k = packet.memory k := by
  rw [clamped, putShort_other checksum last, putShort_other value low]

/-- The value that is written, and those of other options. -/
theorem clamped_value (small : limit < 2 ^ 16) (mss : packet.Mss pos) :
    ntohs (packet.clamped limit pos) (pos + 2) = limit ∧
      ∀ other, packet.Mss other → other ≠ pos →
        ntohs (packet.clamped limit pos) (other + 2) = ntohs packet.memory (other + 2) := by
  have bounds := mss.option.bounds
  constructor
  · rw [clamped, ntohs_other (by omega) (by omega) (by omega), ntohs_putShort small]
  · intro other has different
    have behind := has.option.bounds
    have apart : pos + 4 ≤ other ∨ other + 4 ≤ pos := by
      rcases Nat.lt_or_gt_of_ne different with less | greater
      · exact .inr (has.apart mss less)
      · exact .inl (mss.apart has greater)
    rw [clamped, ntohs_other (by omega) (by omega) (by omega),
      ntohs_other (by omega) (by omega) (by omega)]

/-- The sum changes by the difference of the values, less what that counts at the offset. -/
theorem clamped_sum (small : limit < 2 ^ 16) (syn : packet.IsSyn) (mss : packet.Mss pos) :
    (packet.tcpSum (packet.clamped limit pos) : Int) ≡
      packet.tcpSum packet.memory + (1 - wordFactor (pos + 2 - packet.tcp)) *
        (ntohs packet.memory (pos + 2) - limit : Int) [ZMOD 65535] := by
  have header := syn.header
  have bounds := mss.option.bounds
  have received := mss.received
  have tcp : packet.tcp = packet.start + packet.ihl := rfl
  obtain ⟨i, offset⟩ : ∃ i, pos + 2 = packet.tcp + i := ⟨pos + 2 - packet.tcp, by omega⟩
  have addresses : wordSum (fun k => packet.clamped limit pos (packet.start + 12 + k)) 8 =
      wordSum (fun k => packet.memory (packet.start + 12 + k)) 8 :=
    wordSum_congr fun k inside => clamped_other (by omega) (by omega) (by omega) (by omega)
  have factor : wordFactor 16 = 1 := rfl
  simp only [tcpSum, addresses]
  simp only [clamped, offset, Nat.add_sub_cancel_left]
  generalize set_eq : putShort packet.memory (packet.tcp + i) limit = set
  have first := @wordSum_putShort packet.memory limit packet.tcp (packet.size - packet.ihl) i
    (by omega) small
  obtain ⟨patched, short⟩ := patchedChecksum_mod (ntohs_lt packet.memory (packet.tcp + i)) small
    (ntohs_lt set (packet.tcp + 16))
  have second := @wordSum_putShort set _ packet.tcp (packet.size - packet.ihl) 16 (by omega) short
  rw [set_eq] at first
  rw [factor] at second
  obtain ⟨a, one⟩ := Int.modEq_iff_dvd.mp first
  obtain ⟨b, two⟩ := Int.modEq_iff_dvd.mp second
  obtain ⟨c, three⟩ := Int.modEq_iff_dvd.mp patched
  refine Int.modEq_iff_dvd.mpr ⟨a + b + c, ?_⟩
  push_cast at one two three ⊢
  linear_combination one + two + three

theorem tcpSum_pos (packet : Packet) (memory : Memory) : 0 < packet.tcpSum memory := by
  have protocol : ipprotoTcp.toNat = 6 := rfl
  simp only [tcpSum, protocol]
  omega

/-- The checksum stays valid exactly if the option is at an even offset, or 257 divides the
difference. -/
theorem clamped_checksum (small : limit < 2 ^ 16) (syn : packet.IsSyn) (mss : packet.Mss pos)
    (large : limit < ntohs packet.memory (pos + 2)) :
    foldWords (packet.tcpSum (packet.clamped limit pos)) = 0xFFFF ↔
      (pos - packet.tcp) % 2 = 0 ∨ (ntohs packet.memory (pos + 2) - limit) % 257 = 0 := by
  have bounds := mss.option.bounds
  have sum := clamped_sum small syn mss
  have valid := (foldWords_eq_ones.mp syn.checksum).2
  have positive := tcpSum_pos packet (packet.clamped limit pos)
  rw [foldWords_eq_ones, and_iff_right positive]
  rw [Int.ModEq] at sum
  unfold wordFactor at sum
  by_cases even : (pos - packet.tcp) % 2 = 0
  · rw [if_pos (by omega)] at sum
    refine iff_of_true ?_ (.inl even)
    omega
  · rw [if_neg (by omega)] at sum
    rw [or_iff_right even]
    omega

/-- A segment whose value is clamped. -/
theorem transparent_of_clamped (small : limit < 2 ^ 16) (syn : packet.IsSyn)
    (considered : packet.Considered) (mss : packet.Mss pos)
    (least : ∀ other, packet.Mss other → pos ≤ other)
    (large : limit < ntohs packet.memory (pos + 2))
    (made : (clamp limit packet).1 = packet.clamped limit pos) :
    packet.Transparent limit ↔
      (∀ k ∈ (clamp limit packet).2, packet.start ≤ k ∧ k < packet.start + packet.size) ∧
      (∀ other, packet.Mss other → limit < ntohs packet.memory (other + 2) →
        packet.Considered ∧ ∀ others, packet.Mss others → other ≤ others) ∧
      ∀ other, packet.Mss other → limit < ntohs packet.memory (other + 2) →
        (other - packet.tcp) % 2 = 0 ∨ (ntohs packet.memory (other + 2) - limit) % 257 = 0 := by
  obtain ⟨own, others⟩ := clamped_value small mss
  have checksum := clamped_checksum small syn mss large
  constructor
  · intro transparent
    have only (other : Nat) (has : packet.Mss other)
        (above : limit < ntohs packet.memory (other + 2)) : other = pos := by
      by_contra different
      have limited := transparent.limited other has
      rw [made, others other has different] at limited
      omega
    refine ⟨transparent.reads, fun other has above => ?_, fun other has above => ?_⟩
    · rw [only other has above]
      exact ⟨considered, least⟩
    · rw [only other has above]
      have valid := transparent.checksum
      rw [made] at valid
      exact checksum.mp valid
  · rintro ⟨reads, first, even⟩
    have within (other : Nat) (has : packet.Mss other) (different : other ≠ pos) :
        ntohs packet.memory (other + 2) ≤ limit := by
      by_contra above
      have before := (first other has (by omega)).2 pos mss
      have behind := least other has
      omega
    refine ⟨reads, .inr ⟨pos, mss, fun k value low check last => ?_⟩, fun other has => ?_,
      fun other has => ?_, ?_⟩
    · rw [made]
      exact clamped_other value low check last
    · rw [made]
      by_cases here : other = pos
      · rw [here, own]
        exact large.le
      · rw [others other has here]
    · rw [made]
      by_cases here : other = pos
      · rw [here, own]
      · rw [others other has here]
        exact within other has here
    · rw [made]
      exact checksum.mpr (even pos mss large)

theorem aligned_iff :
    packet.Aligned limit ↔
      (packet.Considered → packet.data = packet.start + packet.size →
        ∀ pos, HasOption packet.memory packet.data (packet.tcp + 20) pos → pos + 1 = packet.data →
          packet.memory pos = 0 ∨ packet.memory pos = 1 ∨ ∃ before < pos, packet.Mss before) ∧
      (∀ pos, packet.Mss pos → limit < ntohs packet.memory (pos + 2) →
        packet.Considered ∧ ∀ other, packet.Mss other → pos ≤ other) ∧
      ∀ pos, packet.Mss pos → limit < ntohs packet.memory (pos + 2) →
        (pos - packet.tcp) % 2 = 0 ∨ (ntohs packet.memory (pos + 2) - limit) % 257 = 0 :=
  ⟨fun aligned => ⟨aligned.ends, aligned.first, aligned.even⟩, fun all => ⟨all.1, all.2.1, all.2.2⟩⟩

theorem transparent_of_unchanged (syn : packet.IsSyn)
    (same : (clamp limit packet).1 = packet.memory)
    (none : ∀ pos, packet.Mss pos → packet.Considered →
      (∀ other, packet.Mss other → pos ≤ other) → ntohs packet.memory (pos + 2) ≤ limit)
    (reads : (∀ k ∈ (clamp limit packet).2, packet.start ≤ k ∧ k < packet.start + packet.size) ↔
      (packet.Considered → packet.data = packet.start + packet.size →
        ∀ pos, HasOption packet.memory packet.data (packet.tcp + 20) pos → pos + 1 = packet.data →
          packet.memory pos = 0 ∨ packet.memory pos = 1 ∨ ∃ before < pos, packet.Mss before)) :
    packet.Transparent limit ↔ packet.Aligned limit := by
  rw [transparent_of_same syn same, aligned_iff, reads, small_iff none]

end Packet

open Packet

variable {packet : Packet} {limit : Nat}

theorem clamp_short (short : ¬ 5 < (packet.memory (packet.tcp + 12)).toNat / 2 ^ 4) :
    clamp limit packet = (packet.memory, []) := by
  simp only [clamp]
  split
  · exact if_neg fun full => short full.2.2
  · rfl

theorem clamp_considered (syn : packet.IsSyn)
    (long : 5 < (packet.memory (packet.tcp + 12)).toNat / 2 ^ 4) :
    clamp limit packet = adjustTcpMss limit packet := by
  simp only [clamp]
  rw [if_pos ⟨syn.first, syn.protocol⟩, if_pos ⟨syn.size, syn.flag, long⟩]

theorem adjustTcpMss_ignored (ignored : ¬ packet.Considered) :
    adjustTcpMss limit packet = (packet.memory, [packet.tcp + 12, packet.tcp + 13]) := by
  simp only [adjustTcpMss]
  by_cases flags : onlySyn (packet.memory (packet.tcp + 13)) = true
  · rw [if_neg (not_not.mpr flags), if_pos (Nat.lt_of_not_le fun fits => ignored ⟨flags, fits⟩)]
  · rw [if_pos flags]

theorem adjustTcpMss_none (considered : packet.Considered)
    (none : (findMss packet.memory packet.data (packet.tcp + 20)).1 = none) :
    adjustTcpMss limit packet = (packet.memory, [packet.tcp + 12, packet.tcp + 13] ++
      (findMss packet.memory packet.data (packet.tcp + 20)).2) := by
  simp only [adjustTcpMss]
  rw [if_neg (not_not.mpr considered.1), if_neg (Nat.not_lt.mpr considered.2), none]

theorem adjustTcpMss_found {pos : Nat} (considered : packet.Considered)
    (found : (findMss packet.memory packet.data (packet.tcp + 20)).1 = some (pos + 2)) :
    adjustTcpMss limit packet =
      let seen := [packet.tcp + 12, packet.tcp + 13] ++
        (findMss packet.memory packet.data (packet.tcp + 20)).2 ++ [pos + 2, pos + 2 + 1]
      if ntohs packet.memory (pos + 2) ≤ limit then (packet.memory, seen)
      else (packet.clamped limit pos, seen ++ [packet.tcp + 16, packet.tcp + 17]) := by
  simp only [adjustTcpMss]
  rw [if_neg (not_not.mpr considered.1), if_neg (Nat.not_lt.mpr considered.2), found]
  rfl

/-- **Clamping is transparent.** A SYN segment is read inside, keeps everything but the value of
its MSS option and the checksum, has no option above the limit then, and a valid checksum, exactly
if it is aligned. -/
theorem clamp_transparent_iff (packet : Packet) (limit : Nat) (small : limit < 2 ^ 16)
    (syn : packet.IsSyn) : packet.Transparent limit ↔ packet.Aligned limit := by
  have header := syn.header
  have size := syn.size
  have tcp : packet.tcp = packet.start + packet.ihl := rfl
  by_cases long : 5 < (packet.memory (packet.tcp + 12)).toNat / 2 ^ 4
  · have made := @clamp_considered packet limit syn long
    by_cases considered : packet.Considered
    · have walks := findMss_walks packet.memory packet.data (packet.tcp + 20)
      cases found : (findMss packet.memory packet.data (packet.tcp + 20)).1 with
      | none =>
          have nothing := walks.notFound found
          rw [adjustTcpMss_none considered found] at made
          refine transparent_of_unchanged syn (by rw [made])
            (fun pos mss => absurd mss.isMss (nothing pos mss.option)) ?_
          rw [made]
          have inside := reads_inside_iff syn considered walks (fun _ => List.not_mem_nil.elim)
          rwa [List.append_nil] at inside
      | some mss =>
          obtain ⟨pos, rfl, option, isMss, least⟩ := walks.isFound mss found
          have own := considered.mss option isMss
          have value (k : Nat) (member : k ∈ [pos + 2, pos + 2 + 1]) :
              packet.tcp ≤ k ∧ k < packet.tcp + 20 ∨
                ∃ pos, packet.Mss pos ∧ (k = pos + 2 ∨ k = pos + 3) :=
            .inr ⟨pos, own, List.mem_pair.mp member⟩
          rw [adjustTcpMss_found considered found] at made
          by_cases within : ntohs packet.memory (pos + 2) ≤ limit
          · simp only [within, ↓reduceIte] at made
            refine transparent_of_unchanged syn (by rw [made]) (fun other mss _ first => ?_) ?_
            · have before := first pos own
              have behind := least other mss.option mss.isMss
              rwa [show other = pos by omega]
            · rw [made]
              exact reads_inside_iff syn considered walks value
          · simp only [within, ↓reduceIte] at made
            rw [transparent_of_clamped small syn considered own
              (fun other mss => least other mss.option mss.isMss) (by omega) (by rw [made]),
              aligned_iff, made]
            refine and_congr_left fun _ => ?_
            rw [List.append_assoc]
            refine reads_inside_iff syn considered walks fun k member => ?_
            rcases List.mem_append.mp member with first | last
            · exact value k first
            · rcases List.mem_pair.mp last with rfl | rfl <;> exact .inl (by omega)
    · rw [adjustTcpMss_ignored considered] at made
      refine transparent_of_unchanged syn (by rw [made])
        (fun pos mss seen => absurd seen considered) ?_
      rw [made]
      refine iff_of_true (fun k member => ?_) fun seen => absurd seen considered
      rcases List.mem_pair.mp member with rfl | rfl <;> omega
  · have made := @clamp_short packet limit long
    have ends : packet.data ≤ packet.tcp + 20 := by
      rw [data]
      omega
    have nothing (pos : Nat) :
        ¬ HasOption packet.memory packet.data (packet.tcp + 20) pos := fun option => by
      have := option.bounds
      omega
    refine transparent_of_unchanged syn (by rw [made])
      (fun pos mss => absurd mss.option (nothing pos)) ?_
    rw [made]
    exact iff_of_true nofun fun _ _ pos option => absurd option (nothing pos)

/-- A SYN segment with these options from 10.0.0.1 to 10.0.0.2. -/
def synPacket (words length : UInt8) (checksum options : List UInt8)
    (small : 40 + options.length < 2 ^ 16) : Packet where
  memory := fun k =>
    ([0x45, 0x00, 0x00, length, 0x00, 0x00, 0x00, 0x00, 0x40, 0x06, 0x00, 0x00,
      0x0A, 0x00, 0x00, 0x01, 0x0A, 0x00, 0x00, 0x02,
      0x04, 0x00, 0x00, 0x50, 0x00, 0x00, 0x00, 0x01, 0x00, 0x00, 0x00, 0x00,
      words, 0x02, 0x20, 0x00] ++ checksum ++ [0x00, 0x00] ++ options).getD k 0
  start := 0
  size := 40 + options.length
  size_lt := small

/-- The option is the first. -/
def evenPacket : Packet := synPacket 0x60 44 [0x5F, 0xD3] [0x02, 0x04, 0x05, 0xB4] (by simp)

theorem clamp_transparent_even : evenPacket.Transparent 1412 := by
  have only (pos : Nat) (mss : evenPacket.Mss pos) : pos = 40 := by
    have last := hasOption_iff.mp mss.option
    rcases last.2 with here | later
    · exact here
    · have bounds := later.2.bounds
      have past : evenPacket.data ≤
          evenPacket.tcp + 20 + optionSize evenPacket.memory (evenPacket.tcp + 20) := by decide
      omega
  have syn : evenPacket.IsSyn :=
    ⟨by decide, by decide, by decide, rfl, by decide, foldWords_eq_ones.mpr (by decide)⟩
  refine (clamp_transparent_iff evenPacket 1412 (by decide) syn).mpr ⟨?_, ?_, ?_⟩
  · intro _ _ pos option ends
    rcases (hasOption_iff.mp option).2 with rfl | later
    · exact absurd ends (by decide)
    · have bounds := later.2.bounds
      have past : evenPacket.data ≤
          evenPacket.tcp + 20 + optionSize evenPacket.memory (evenPacket.tcp + 20) := by decide
      omega
  · intro pos mss _
    refine ⟨⟨by decide, by decide⟩, fun other has => ?_⟩
    rw [only pos mss, only other has]
  · intro pos mss _
    rw [only pos mss]
    exact .inl (by decide)

/-- The option is behind a byte of padding. -/
def oddPacket : Packet :=
  synPacket 0x70 48 [0x9D, 0x7D] [0x01, 0x02, 0x04, 0x05, 0xB4, 0x01, 0x01, 0x01] (by simp)

/-- The checksum of a segment is wrong after its option was clamped at an odd offset. -/
theorem odd_clamp : ¬ ∀ (packet : Packet) (limit : Nat), limit < 2 ^ 16 → packet.IsSyn →
    packet.Transparent limit := by
  intro transparent
  have syn : oddPacket.IsSyn :=
    ⟨by decide, by decide, by decide, rfl, by decide, foldWords_eq_ones.mpr (by decide)⟩
  have option : HasOption oddPacket.memory oddPacket.data (oddPacket.tcp + 20) 41 :=
    .later (by decide) (.here (by decide))
  have mss : oddPacket.Mss 41 := ⟨option, by decide, by decide, by decide, by decide⟩
  have found :
      (findMss oddPacket.memory oddPacket.data (oddPacket.tcp + 20)).1 = some (41 + 2) := by
    rw [findMss, if_pos (by decide), if_neg (by decide), if_neg (by decide), if_pos (by decide)]
    rw [findMss, if_pos (by decide), if_pos (by decide)]
    rfl
  have made : (clamp 1412 oddPacket).1 = oddPacket.clamped 1412 41 := by
    rw [clamp_considered syn (by decide), adjustTcpMss_found ⟨by decide, by decide⟩ found]
    exact congrArg Prod.fst (if_neg (by decide))
  have valid := (transparent oddPacket 1412 (by decide) syn).checksum
  rw [made, clamped_checksum (by decide) syn mss (by decide)] at valid
  exact absurd valid (by decide)

end L2tpns.Traffic
