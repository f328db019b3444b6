import L2tpns.Dhcp6.Format

/-! # ICMP errors

`host_unreachable` answers a packet for an address that no session has with an ICMP error, which
quotes what is in front of the packet. The checksum of its IP header is always right, as the
header has an even length. That of the error is right if what it quotes has an even length or ends
with zero (`L2tpns.Icmp.icmphdr_accepted_iff`): a packet of 27 bytes, such as the last
fragment of a larger one, gets an error that no receiver accepts.
-/

namespace L2tpns.Icmp

open Foundation
open Dhcp6 (Config Framed In6Addr Line Session committing committing_answered delegating
  dhcpv6Process dhcpv6Process_formed headerSize plainConfig plainLine sendIpv6Ra sendIpv6Ra_formed)
open Avp (Memory)
open Server (bytes16 maxEther)

/-- `in_addr_t`, as it is in a packet. -/
abbrev InAddr := Vector UInt8 4

/-- `struct iphdr` in front of an error of `len` bytes with it. -/
def iphdr (len : Nat) (id : Vector UInt8 2) (saddr daddr : InAddr) (check : Nat) : List UInt8 :=
  [0x45, 0] ++ bytes16 len ++ id.toList ++ [0, 0, 30, 1] ++ bytes16 check ++
    (saddr.toList ++ daddr.toList)

/-- `struct icmphdr`, and what is quoted behind it. -/
def icmphdr (quoted : List UInt8) (check : Nat) : List UInt8 :=
  [3, 1] ++ bytes16 check ++ ([0, 0, 0, 0] ++ quoted)

/-- An IP header and eight bytes behind it. -/
def quote (packet : List UInt8) : List UInt8 := packet.take (20 + 8)

/-- `host_unreachable`: the packet that it sends. -/
def hostUnreachable (destination : InAddr) (id : Vector UInt8 2) (source : InAddr)
    (packet : List UInt8) : List UInt8 :=
  let quoted := quote packet
  let iph := iphdr (20 + 8 + quoted.length) id source destination
  let icmp := icmphdr quoted
  iph (checksum (iph 0)) ++ icmp (checksum (icmp 0))

variable {front back : List UInt8}

theorem checksum_accepted (even : front.length % 2 = 0)
    (right : checksum (front ++ [0, 0] ++ back) = onesChecksum (front ++ [0, 0] ++ back)) :
    Accepts (front ++ bytes16 (checksum (front ++ [0, 0] ++ back)) ++ back) := by
  rw [right]
  exact accepts_complement even

/-- The checksum of a string with an odd byte is accepted only if the byte is zero: receivers add
the byte for the high one of a word. -/
theorem checksum_odd_rejected (even : front.length % 2 = 0) (whole : back.length % 2 = 0)
    {last : UInt8} (accepted : Accepts (front ++
      bytes16 (checksum (front ++ [0, 0] ++ (back ++ [last]))) ++ (back ++ [last]))) :
    last = 0 := by
  have padded : words [last] = [last.toNat * 2 ^ 8] := rfl
  have zeros : words ([0, 0] ++ back) = 0 :: words back := rfl
  have sum : checksum (front ++ [0, 0] ++ (back ++ [last])) =
      2 ^ 16 - 1 - foldWords ((words front).sum + (words back).sum + last.toNat) := by
    have length : (front ++ [0, 0] ++ back).length % 2 = 0 := by
      simp only [List.length_append, List.length_cons, List.length_nil]
      omega
    rw [← List.append_assoc, checksum_odd length, List.append_assoc, words_append even, zeros,
      List.sum_append, List.sum_cons, Nat.zero_add]
  have small : checksum (front ++ [0, 0] ++ (back ++ [last])) < 2 ^ 16 := by
    rw [sum]
    omega
  have folded := (foldWords_eq_ones.mp ((accepts_word_iff even small).mp accepted)).2
  rw [sum, words_append whole, padded, List.sum_append, List.sum_singleton] at folded
  have low := foldWords_lt ((words front).sum + (words back).sum + last.toNat)
  have same := foldWords_mod ((words front).sum + (words back).sum + last.toNat)
  have byte := last.toNat_lt
  apply UInt8.toNat_inj.mp
  change last.toNat = 0
  omega

variable {destination source : InAddr} {id : Vector UInt8 2} {packet : List UInt8}

theorem iphdr_length (len check : Nat) : (iphdr len id source destination check).length = 20 := by
  simp [iphdr]

theorem hostUnreachable_header :
    (hostUnreachable destination id source packet).take 20 =
      iphdr (28 + (quote packet).length) id source destination
        (checksum (iphdr (28 + (quote packet).length) id source destination 0)) :=
  List.take_left' (iphdr_length _ _)

theorem hostUnreachable_error :
    (hostUnreachable destination id source packet).drop 20 =
      icmphdr (quote packet) (checksum (icmphdr (quote packet) 0)) :=
  List.drop_left' (iphdr_length _ _)

theorem iphdr_accepted (len : Nat) :
    Accepts (iphdr len id source destination (checksum (iphdr len id source destination 0))) :=
  checksum_accepted (by simp) (checksum_even (by simp))

/-- **ICMP errors** are accepted if what they quote has an even length, or zero at its end. -/
theorem icmphdr_accepted_iff (quoted : List UInt8) :
    Accepts (icmphdr quoted (checksum (icmphdr quoted 0))) ↔
      quoted.length % 2 = 0 ∨ quoted.getLast? = some 0 := by
  constructor
  · intro accepted
    rcases even_or_odd quoted with even | ⟨front, last, rfl, even⟩
    · exact .inl even
    · have whole : ([0, 0, 0, 0] ++ front : List UInt8).length % 2 = 0 := by
        simp only [List.length_append, List.length_cons, List.length_nil]
        omega
      rw [@checksum_odd_rejected [3, 1] ([0, 0, 0, 0] ++ front) rfl whole last accepted,
        List.getLast?_concat]
      exact .inr rfl
  · intro right
    apply checksum_accepted rfl
    rw [checksum_eq_iff, ← List.append_assoc]
    rcases right with even | zero
    · left
      simp only [List.length_append, List.length_cons, List.length_nil]
      omega
    · right
      rw [List.getLast?_append, zero, Option.some_or]

/-- **The checksums** are the right ones, and receivers accept what is sent with them, except for
strings with an odd byte in `_checksum`, and sums that do not fit into 32 bits in
`ipv6_checksum`. -/
theorem checksums_right_iff (bytes : List UInt8) (pseudo : Vector UInt8 40) :
    (checksum bytes = onesChecksum bytes ↔ bytes.length % 2 = 0 ∨ bytes.getLast? = some 0) ∧
      (bytes.length < 2 ^ 31 →
        (ipv6Checksum pseudo.toList bytes = onesChecksum (pseudo.toList ++ bytes) ↔
          (words (pseudo.toList ++ bytes)).sum < 2 ^ 32)) ∧
      (∀ destination id source packet,
        Accepts ((hostUnreachable destination id source packet).take 20) ∧
          (Accepts ((hostUnreachable destination id source packet).drop 20) ↔
            (quote packet).length % 2 = 0 ∨ (quote packet).getLast? = some 0)) ∧
      (∀ (config : Config) (line : Line) (session : Session) (p : Memory) (l : Nat),
        ∀ packet ∈ (dhcpv6Process config line session p l).answer,
          headerSize line + packet.length ≤ maxEther + 20 → Framed packet 17) ∧
      ∀ (config : Config) (line : Line) (session : Session) (ip : Option In6Addr),
        ∀ packet ∈ sendIpv6Ra config line session ip, Framed packet 58 := by
  refine ⟨checksum_eq_iff bytes, ?_, ?_, ?_, ?_⟩
  · intro int
    exact ipv6Checksum_eq_iff (Vector.length_toList) int
  · intro destination id source packet
    rw [hostUnreachable_header, hostUnreachable_error]
    exact ⟨iphdr_accepted _, icmphdr_accepted_iff _⟩
  · intro config line session p l packet answered fits
    exact (dhcpv6Process_formed answered fits).framed
  · intro config line session ip packet sent
    exact (sendIpv6Ra_formed sent).framed

/-- A byte behind a pseudo header of zeros, and the answer to a client that asks for nothing. -/
theorem checksums_right_iff_short :
    ipv6Checksum (Vector.replicate 40 0).toList [1] =
      onesChecksum ((Vector.replicate 40 0).toList ++ [1]) ∧
      ∃ packet ∈ (dhcpv6Process plainConfig plainLine delegating committing 61).answer,
        Framed packet 17 := by
  obtain ⟨packet, answered, fits⟩ := committing_answered
  have right := checksums_right_iff [1] (Vector.replicate 40 0)
  exact ⟨(right.2.1 (by decide)).mpr (by decide), packet, answered,
    right.2.2.2.1 plainConfig plainLine delegating committing 61 packet answered fits⟩

/-- The last fragment of a packet, with one byte behind its header. -/
def lastFragment : List UInt8 :=
  [0x45, 0, 0, 21, 0, 7, 0, 185, 64, 17, 0, 0, 10, 0, 0, 1, 10, 0, 0, 2, 1]

/-- The checksum of an odd byte is not the right one, and the error that quotes such a packet is
not accepted. -/
theorem odd_byte_rejected : checksum [1] ≠ onesChecksum [1] ∧
    ¬ Accepts
      ((hostUnreachable #v[10, 0, 0, 1] #v[0, 7] #v[10, 0, 0, 9] lastFragment).drop 20) := by
  rw [Ne, checksum_eq_iff, hostUnreachable_error, icmphdr_accepted_iff]
  decide

end L2tpns.Icmp
