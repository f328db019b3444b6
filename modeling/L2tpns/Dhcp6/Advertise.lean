import L2tpns.Dhcp6.Server
import L2tpns.Foundation.Tiling
import Mathlib.Data.List.GetD

/-! # Router advertisements

`send_ipv6_ra` tells a client the prefix of its network and the name servers. The header of an
advertisement tells its length, its checksum verifies, and its options tell their lengths in units
of eight bytes (`L2tpns.Dhcp6.sendIpv6Ra_formed`). What the headers of a packet tell is the same
for the answers of the DHCPv6 server (`L2tpns.Dhcp6.framed_of_checksum`).
-/

namespace L2tpns.Dhcp6

open Foundation
open Foundation.Tiling (Delimited cut cut_flatten mem_maybe maybe maybe_flatten)
open Encap (bytes16_length bytes32_length)
open Icmp (ipv6Checksum ipv6Checksum_eq_iff)
open Server (bytes16 bytes32 maxEther)

/-- FE80::1 -/
def advertSource : In6Addr := #v[0xFE, 0x80, 0, 0, 0, 0, 0, 0, 0, 0, 0, 0, 0, 0, 0, 1]

/-- FF02::1 -/
def allHosts : In6Addr := #v[0xFF, 0x02, 0, 0, 0, 0, 0, 0, 0, 0, 0, 0, 0, 0, 0, 1]

/-- The prefix of the client's network: of its own address, or the configured one. -/
def advertPrefix (config : Config) (session : Session) : List UInt8 :=
  if leading session.ipv6address ≠ 0 then session.ipv6address.toList.take 8 ++ List.replicate 8 0
  else config.ipv6Prefix.toList

/-- The option with the prefix, of four units, with the flags for on-link and autonomous. -/
def prefixInformation (config : Config) (session : Session) : List UInt8 :=
  [3, 4, 64, 0xC0] ++ bytes32 2592000 ++ bytes32 604800 ++ bytes32 0 ++
    advertPrefix config session

/-- `s6_addr32[0]` -/
def In6Addr.word (address : In6Addr) : List UInt8 := address.toList.take 4

/-- The option with the name servers, of one unit and two for each, if there is one. -/
def rdnss (config : Config) : List UInt8 :=
  if In6Addr.word config.defaultIpv6Dns1 = List.replicate 4 0 then []
  else if In6Addr.word config.defaultIpv6Dns2 = List.replicate 4 0 then
    [25, 3, 0, 0] ++ bytes32 config.dns6Lifetime.toNat ++ config.defaultIpv6Dns1.toList
  else
    [25, 3 + 2, 0, 0] ++ bytes32 config.dns6Lifetime.toNat ++ config.defaultIpv6Dns1.toList ++
      config.defaultIpv6Dns2.toList

/-- `struct nd_router_advert` behind its checksum: the hop limit, the flags for managed and other,
and the times. -/
def routerAdvert : List UInt8 := [64, 0xC0] ++ bytes16 0xFFFF ++ bytes32 0 ++ bytes32 0

/-- `send_ipv6_ra`: the packet from its IPv6 header on. -/
def sendIpv6Ra (config : Config) (line : Line) (session : Session) (ip : Option In6Addr) :
    Option (List UInt8) :=
  let made := Encap.makeppp line.encap (fun _ => 0) 0 (maxEther + 20) none 0 line.s line.t 0x57
    false 0 0
  let dst := (ip.getD allHosts).toList
  let options := prefixInformation config session ++ rdnss config
  let l := 16 + options.length
  let icmp (check : Nat) : List UInt8 := [134, 0] ++ bytes16 check ++ routerAdvert ++ options
  made.frame.map fun _ =>
    ip6Header l 58 255 advertSource.toList dst ++
      icmp (ipv6Checksum (pseudoHdr advertSource.toList dst l 58) (icmp 0))

/-- The number of 16 bits at an offset. -/
def shortAt (bytes : List UInt8) (i : Nat) : Nat := wordAt (fun k => bytes.getD k 0) i

/-- The headers of a packet tell its length, and a receiver accepts the checksum of what is behind
its IPv6 header. -/
structure Framed (packet : List UInt8) (nxt : UInt8) : Prop where
  plen : shortAt packet 4 = packet.length - 40
  protocol : packet.getD 6 0 = nxt
  verifies :
    Accepts (pseudoHdr ((packet.drop 8).take 16) ((packet.drop 24).take 16) (packet.length - 40)
      nxt ++ packet.drop 40)

theorem shortAt_append {front : List UInt8} {i value : Nat} (offset : front.length = i)
    (small : value < 2 ^ 16) (back : List UInt8) :
    shortAt (front ++ (bytes16 value ++ back)) i = value := by
  subst offset
  have high : (UInt8.ofNat (value / 2 ^ 8)).toNat = value / 2 ^ 8 := by
    rw [UInt8.toNat_ofNat']
    omega
  have low : (UInt8.ofNat value).toNat = value % 2 ^ 8 := UInt8.toNat_ofNat'
  rw [shortAt, wordAt, List.getD_append_right _ _ _ _ (Nat.le_refl _),
    List.getD_append_right _ _ _ _ (Nat.le_add_right _ _), Nat.sub_self, Nat.add_sub_cancel_left]
  simp only [bytes16, List.cons_append, List.getD_cons_zero, List.getD_cons_succ, high, low]
  omega

variable {src dst front back : List UInt8} {nxt hlim : UInt8}

theorem ip6Header_length (srcSize : src.length = 16) (dstSize : dst.length = 16) (plen : Nat) :
    (ip6Header plen nxt hlim src dst).length = 40 := by
  simp [ip6Header, srcSize, dstSize]

theorem checksum_accepted {pseudo : List UInt8} (size : pseudo.length = 40)
    (even : front.length % 2 = 0) (small : front.length + 2 + back.length < 2 ^ 16) :
    Accepts (pseudo ++
      (front ++ bytes16 (ipv6Checksum pseudo (front ++ bytes16 0 ++ back)) ++ back)) := by
  have length : (front ++ bytes16 0 ++ back).length < 2 ^ 16 := by
    simpa [bytes16_length, Nat.add_assoc] using small
  have bound := @words_sum_le (pseudo ++ (front ++ bytes16 0 ++ back))
  rw [List.length_append, size] at bound
  have zeros : bytes16 0 = [0, 0] := rfl
  rw [(ipv6Checksum_eq_iff size (by omega)).mpr (by omega), zeros, bytes16]
  have accepted := @accepts_complement (pseudo ++ front) back
    (by rw [List.length_append, size]; omega)
  simpa only [List.append_assoc] using accepted

/-- **A packet with its checksum** at an even offset is well framed. -/
theorem framed_of_checksum (srcSize : src.length = 16) (dstSize : dst.length = 16)
    (even : front.length % 2 = 0) {l : Nat} (total : front.length + 2 + back.length = l)
    (small : l < 2 ^ 16) :
    Framed (ip6Header l nxt hlim src dst ++ (front ++ bytes16 (ipv6Checksum
      (pseudoHdr src dst l nxt) (front ++ bytes16 0 ++ back)) ++ back)) nxt := by
  generalize same : front ++ bytes16 (ipv6Checksum (pseudoHdr src dst l nxt)
    (front ++ bytes16 0 ++ back)) ++ back = payload
  have size : payload.length = l := by
    rw [← same, ← total]
    simp [Nat.add_assoc]
  have parts : ip6Header l nxt hlim src dst ++ payload =
      [0x60, 0, 0, 0] ++ (bytes16 l ++ ([nxt, hlim] ++ (src ++ (dst ++ payload)))) := by
    simp only [ip6Header, List.append_assoc]
  have header := @ip6Header_length src dst nxt hlim srcSize dstSize l
  have sizes : (ip6Header l nxt hlim src dst ++ payload).length - 40 = l := by
    rw [List.length_append, header, size, Nat.add_sub_cancel_left]
  have source : ((ip6Header l nxt hlim src dst ++ payload).drop 8).take 16 = src := by
    rw [parts, ← List.append_assoc, ← List.append_assoc, List.drop_left' (by simp),
      List.take_left' srcSize]
  have dest : ((ip6Header l nxt hlim src dst ++ payload).drop 24).take 16 = dst := by
    rw [parts, ← List.append_assoc, ← List.append_assoc, ← List.append_assoc,
      List.drop_left' (by simp [srcSize]), List.take_left' dstSize]
  refine ⟨?_, ?_, ?_⟩
  · rw [sizes, parts]
    exact shortAt_append rfl small _
  · rw [parts]
    rfl
  · have accepted := @checksum_accepted front back (pseudoHdr src dst l nxt)
      (by simp [pseudoHdr, srcSize, dstSize]) even (by omega)
    rw [source, dest, sizes, List.drop_left' header, ← same]
    exact accepted

/-- The size of an option of a router advertisement, in units of eight bytes. -/
def ndSize (bytes : List UInt8) : Nat := 8 * (bytes.getD 1 0).toNat

/-- The headers tell the length of the packet, the checksum verifies, and the options behind the
advertisement are as long as their units tell. -/
structure AdvertFormed (packet : List UInt8) : Prop where
  framed : Framed packet 58
  options : ∃ items, cut ndSize (packet.drop 56) = some items ∧
    ∀ item ∈ items, item.length = ndSize item

theorem nd_delimited {type units : UInt8} {value : List UInt8}
    (whole : 2 + value.length = 8 * units.toNat) :
    Delimited ndSize (type :: units :: value) := by
  refine ⟨List.cons_ne_nil _ _, fun rest => ?_⟩
  simp only [ndSize, List.cons_append, List.getD_cons_succ, List.getD_cons_zero,
    List.length_cons]
  omega

variable {config : Config} {line : Line} {session : Session}

theorem advertPrefix_length : (advertPrefix config session).length = 16 := by
  rw [advertPrefix]
  split_ifs <;> simp

theorem prefixInformation_delimited : Delimited ndSize (prefixInformation config session) :=
  nd_delimited (by simp [advertPrefix_length])

theorem rdnss_delimited (some : rdnss config ≠ []) : Delimited ndSize (rdnss config) := by
  rw [rdnss] at some ⊢
  split_ifs at some ⊢
  · exact absurd rfl some
  · exact nd_delimited (by simp)
  · exact nd_delimited (by simp)

def advertOptions (config : Config) (session : Session) : List (List UInt8) :=
  prefixInformation config session :: maybe (rdnss config)

theorem advertOptions_delimited {item : List UInt8} (member : item ∈ advertOptions config session) :
    Delimited ndSize item := by
  rcases List.mem_cons.mp member with rfl | member
  · exact prefixInformation_delimited
  · obtain ⟨some, rfl⟩ := mem_maybe.mp member
    exact rdnss_delimited some

theorem rdnss_length : (rdnss config).length ≤ 40 := by
  rw [rdnss]
  split_ifs <;> simp

theorem prefixInformation_length : (prefixInformation config session).length = 32 := by
  simp [prefixInformation, advertPrefix_length]

/-- **Router advertisements** are well formed. -/
theorem sendIpv6Ra_formed {ip : Option In6Addr} {packet : List UInt8}
    (sent : packet ∈ sendIpv6Ra config line session ip) : AdvertFormed packet := by
  obtain ⟨start, -, rfl⟩ := Option.map_eq_some_iff.mp sent
  have network := @prefixInformation_length config session
  have servers := @rdnss_length config
  have flat : (advertOptions config session).flatten =
      prefixInformation config session ++ rdnss config := by
    simp [advertOptions]
  have short : (advertOptions config session).flatten.length ≤ 72 := by
    rw [flat, List.length_append]
    omega
  dsimp only
  rw [← flat]
  clear sent
  generalize dst : (ip.getD allHosts).toList = address
  have size : address.length = 16 := by simp [← dst]
  have framed (options : List UInt8) (short : options.length ≤ 72) :=
    @framed_of_checksum advertSource.toList address [134, 0] (routerAdvert ++ options) 58 255
      (by simp) size rfl (16 + options.length) (by simp [routerAdvert]; omega) (by omega)
  have header (l : Nat) := @ip6Header_length advertSource.toList address 58 255 (by simp) size l
  simp only [← List.append_assoc] at framed ⊢
  refine ⟨framed _ short, advertOptions config session, ?_, fun item member => ?_⟩
  · rw [List.drop_left' (by simp [header, routerAdvert])]
    exact cut_flatten fun item => advertOptions_delimited
  · have delimited := (advertOptions_delimited member).tells []
    rw [List.append_nil] at delimited
    exact delimited.symm

end L2tpns.Dhcp6
