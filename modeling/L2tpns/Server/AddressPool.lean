import L2tpns.Server.State
import Mathlib.Algebra.Order.Ring.Int

/-! # The address pool and the map from addresses to sessions

`ip_hash` maps an address to the session that uses it, and an unused address of
the pool to the negated index of its entry, both in cells of 16 bits. Addresses are
in host order. A read of the map is `L2tpns.Server.lookup_cacheIpmap`; a block of
addresses is written by `L2tpns.Server.cacheRange`.
-/

namespace L2tpns.Server

open Foundation

/-- The bytes of an address, the most significant first. -/
def octets (ip : InAddr) : Nat → Nat := fun k => ip.toNat / 2 ^ (8 * (3 - k)) % 2 ^ 8

/-- What the map says about an address: 0 if nothing is known. -/
def lookupIpmap (ipHash : IpHash) (ip : InAddr) : Nat :=
  RadixTable.lookup 0 3 ipHash (octets ip)

/-- Map an address to a session id, or to a negated pool index; a cell has 16 bits. -/
def cacheIpmap (ipHash : IpHash) (ip : InAddr) (s : Int) : IpHash :=
  RadixTable.insert 0 3 ipHash (octets ip) (s % 2 ^ 16).toNat

/-- Map `count` addresses from `ip` on. -/
def cacheRange (ipHash : IpHash) (ip : InAddr) (s : Int) : Nat → IpHash
  | 0 => ipHash
  | count + 1 => cacheRange (cacheIpmap ipHash ip s) (ip + 1) s count

theorem octets_eq {ip other : InAddr} :
    (∀ k, k ≤ 3 → octets ip k = octets other k) ↔ ip = other := by
  constructor
  · intro same
    have first := same 0 (by omega)
    have second := same 1 (by omega)
    have third := same 2 (by omega)
    have last := same 3 (by omega)
    simp only [octets] at first second third last
    have bound := ip.toNat_lt
    have bound' := other.toNat_lt
    apply UInt32.toNat_inj.mp
    omega
  · rintro rfl _ _
    rfl

/-- The map read back after one address was written. -/
theorem lookup_cacheIpmap (ipHash : IpHash) (ip other : InAddr) (s : Int) :
    lookupIpmap (cacheIpmap ipHash ip s) other =
      if other = ip then (s % 2 ^ 16).toNat else lookupIpmap ipHash other := by
  by_cases same : other = ip
  · rw [if_pos same]
    exact RadixTable.lookup_insert_same 3 ipHash (octets_eq.mpr same) _
  · rw [if_neg same]
    obtain ⟨k, within, differ⟩ : ∃ k, k ≤ 3 ∧ octets other k ≠ octets ip k := by
      by_contra none
      exact same (octets_eq.mp fun k within => by_contra fun differ => none ⟨k, within, differ⟩)
    exact RadixTable.lookup_insert_other 3 ipHash within differ _

/-- The map read back after a block of addresses was written. -/
theorem lookup_cacheRange (ipHash : IpHash) {ip other : InAddr} {count : Nat} (s : Int)
    (fits : ip.toNat + count ≤ 2 ^ 32) :
    lookupIpmap (cacheRange ipHash ip s count) other =
      if ip.toNat ≤ other.toNat ∧ other.toNat < ip.toNat + count then (s % 2 ^ 16).toNat
      else lookupIpmap ipHash other := by
  induction count generalizing ip ipHash with
  | zero => rw [cacheRange, if_neg (by omega)]
  | succ count ih =>
      have bound := other.toNat_lt
      have read := lookup_cacheIpmap ipHash ip other s
      simp only [← UInt32.toNat_inj] at read
      cases count with
      | zero =>
          rw [cacheRange, cacheRange, read]
          by_cases first : other.toNat = ip.toNat
          · rw [if_pos first, if_pos (by omega)]
          · rw [if_neg first, if_neg (by omega)]
      | succ count =>
          have next : (ip + 1).toNat = ip.toNat + 1 := by
            rw [UInt32.toNat_add, UInt32.toNat_one]
            exact Nat.mod_eq_of_lt (by omega)
          rw [cacheRange, ih _ (by omega), read, next]
          by_cases first : other.toNat = ip.toNat
          · rw [if_neg (by omega), if_pos first, if_pos (by omega)]
          · rw [if_neg first]
            by_cases later : ip.toNat + 1 ≤ other.toNat ∧
                other.toNat < ip.toNat + 1 + (count + 1)
            · rw [if_pos later, if_pos (by omega)]
            · rw [if_neg later, if_neg (by omega)]

/-- The session that an address is mapped to, if it is open. -/
def sessionbyip (st : State) (ip : InAddr) : Nat :=
  let s := lookupIpmap st.ipHash ip
  if 0 < s ∧ s < maxSession ∧ (st.session s).opened ≠ 0 then s else 0

namespace State

def cacheIp (st : State) (ip : InAddr) (s : Int) : State :=
  { st with ipHash := cacheIpmap st.ipHash ip s }

theorem cacheIp_session {st : State} (ip : InAddr) (s : Int) :
    (st.cacheIp ip s).session = st.session := rfl

end State

/-- The first half bytes of an IPv6 address. -/
def nibbles (ip count : Nat) : List Nat :=
  (List.range count).map fun k => ip / 2 ^ (4 * (31 - k)) % 16

/-- Map a prefix of IPv6 addresses to a session; at least four bits of it count. -/
def cacheIpv6map (ipv6Hash : Ipv6Hash) (ip prefixlen s : Nat) : Ipv6Hash :=
  PrefixTree.insert 0 ipv6Hash (nibbles ip (max 1 (prefixlen / 4))) s

/-- The session of the shortest prefix of an IPv6 address that has one. -/
def lookupIpv6map (ipv6Hash : Ipv6Hash) (ip : Nat) : Nat :=
  PrefixTree.first 0 ipv6Hash (nibbles ip 32)

/-- A session id that a map has, if it is that of an open session. -/
def State.openId (st : State) (s : Nat) : Nat :=
  if 0 < s ∧ s < maxSession ∧ (st.session s).opened ≠ 0 then s else 0

/-- The number that the first `count` bytes spell. -/
def bytesToNat (bytes : List UInt8) (count : Nat) : Nat :=
  (List.range count).foldl (fun value k => value * 2 ^ 8 + (bytes.getD k 0).toNat) 0

/-- An address in the prefix of the server or a link-local one, in which the IPv4 address
of the session stands after the first 8 bytes. -/
def embedsIpv4 (st : State) (ip : Nat) : Bool :=
  ip / 2 ^ 64 = bytesToNat st.config.ipv6Prefix 8 ∨ ip / 2 ^ 64 = 0xFE80 * 2 ^ 48

/-- The session that an IPv6 address is mapped to, or the IPv4 address in it. -/
def sessionbyipv6 (st : State) (ip : Nat) : Nat :=
  st.openId (if embedsIpv4 st ip then lookupIpmap st.ipHash (UInt32.ofNat (ip / 2 ^ 32 % 2 ^ 32))
    else lookupIpv6map st.ipv6Hash ip)

/-- The session that an IPv6 address is mapped to. -/
def sessionbyipv6new (st : State) (ip : Nat) : Nat := st.openId (lookupIpv6map st.ipv6Hash ip)

def State.cacheIp6 (st : State) (ip prefixlen s : Nat) : State :=
  { st with ipv6Hash := cacheIpv6map st.ipv6Hash ip prefixlen s }

/-- Bits of the host part. The count of a shift is taken modulo 32. -/
def hostBits (prefixlen : Nat) : Nat := ((32 - prefixlen : Int) % 32).toNat

/-- Whether an address has the prefix of a route. -/
def Route.covers (route : Route) (ip : InAddr) : Bool :=
  ip.toNat / 2 ^ hostBits route.prefixlen = route.ip.toNat / 2 ^ hostBits route.prefixlen

/-- The first address of a route. -/
def routeBase (ip : InAddr) (prefixlen : Nat) : InAddr :=
  UInt32.ofNat (ip.toNat / 2 ^ hostBits prefixlen * 2 ^ hostBits prefixlen)

/-- How many addresses the loop over a route visits: none if its end wraps around. -/
def routeCount (ip : InAddr) (prefixlen : Nat) : Nat :=
  ((routeBase ip prefixlen).toNat + 2 ^ hostBits prefixlen) % 2 ^ 32 -
    (routeBase ip prefixlen).toNat

/-- Map the addresses of a route. -/
def cacheRoute (ipHash : IpHash) (ip : InAddr) (prefixlen : Nat) (s : Int) : IpHash :=
  cacheRange ipHash (routeBase ip prefixlen) s (routeCount ip prefixlen)

/-- Map the addresses of several routes. -/
def cacheRoutes (ipHash : IpHash) (s : Int) : List Route → IpHash
  | [] => ipHash
  | route :: routes => cacheRoutes (cacheRoute ipHash route.ip route.prefixlen s) s routes

/-- Add or delete a route of a session, and map or unmap its addresses. -/
def routeset (st : State) (s : Nat) (ip : InAddr) (prefixlen : Nat) (add : Bool) : State :=
  let routed := st.emit (.route (routeBase ip prefixlen)
    (if prefixlen = 0 then 32 else prefixlen) add)
  if s = 0 then routed
  else { routed with ipHash := cacheRoute st.ipHash ip prefixlen (if add then s else 0) }

/-- Add or delete the routes of a session one by one. -/
def routesetAll (st : State) (s : Nat) (add : Bool) : List Route → State
  | [] => st
  | route :: routes => routesetAll (routeset st s route.ip route.prefixlen add) s add routes

/-- The search of `assign_ip_address` from entry `i` on, with `left` entries to go:
an address the user had before, or the one unused for longest. -/
def bestAddress (st : State) (user : List UInt8) (walledGarden : Bool) :
    Nat → Nat → Option Nat → Nat → Option Nat
  | 0, _, best, _ => best
  | left + 1, i, best, bestTime =>
      let entry := st.ipAddressPool i
      if entry.address = 0 ∨ entry.assigned then
        bestAddress st user walledGarden left (i + 1) best bestTime
      else if ¬ walledGarden ∧ entry.user ≠ [] ∧ user = entry.user then some i
      else if entry.last < bestTime then
        if entry.last = 0 then some i
        else bestAddress st user walledGarden left (i + 1) (some i) entry.last
      else bestAddress st user walledGarden left (i + 1) best bestTime

/-- Give the session an address of the pool, if one is free. -/
def assignIpAddress (st : State) (s : Nat) : State :=
  let session := st.session s
  match bestAddress st session.user session.walledGarden (st.ipPoolSize - 1) 1 none st.timeNow with
  | none => st
  | some best =>
      let given := st.setSession s fun session =>
        { session with ip := (st.ipAddressPool best).address, ipPoolIndex := best }
      given.setPool best fun entry =>
        { entry with
          assigned := true
          last := st.timeNow
          session := s
          user := if session.walledGarden then [] else session.user }

/-- Take the address of the session back, and map it to its pool index. -/
def freeIpAddress (st : State) (s : Nat) : State :=
  let i := (st.session s).ipPoolIndex.toNat
  if (st.session s).ip = 0 then st
  else
    let mapped := st.cacheIp (st.session s).ip (-(i : Int))
    let cleared := mapped.setSession s fun session => { session with ip := 0 }
    cleared.setPool i fun entry =>
      { entry with assigned := false, session := 0, last := st.timeNow }

/-- First pass of `rebuild_address_pool`, for one entry. -/
def rebuildEntry (st : State) (i : Nat) : State :=
  let cleared := st.setPool i fun entry => { entry with assigned := false, session := 0 }
  if (st.ipAddressPool i).address = 0 then cleared
  else cleared.cacheIp (st.ipAddressPool i).address (-(i : Int))

/-- Second pass of `rebuild_address_pool`, for one session. The index is decoded
from the map as an `int`. -/
def rebuildSession (st : State) (i : Nat) : State :=
  let session := st.session i
  if session.opened = 0 ∨ session.ip = 0 then st
  else
    let ipid : Int := -(lookupIpmap st.ipHash session.ip : Int)
    if session.ipPoolIndex < 0 ∧ ipid < 1 then st
    else if (maxIpPool : Int) < ipid ∨ ipid < 0 then
      st.setSession i fun session => { session with ipPoolIndex := -1 }
    else
      let assigned := st.setPool ipid.toNat fun entry =>
        { entry with
          assigned := true
          session := i
          last := st.timeNow
          user := session.user }
      let indexed := assigned.setSession i fun session => { session with ipPoolIndex := ipid }
      indexed.cacheIp session.ip i

/-- Fsck the address pool against the session table. -/
def rebuildAddressPool (st : State) : State :=
  (List.range maxSession).foldl rebuildSession
    ((List.range' 1 (maxIpPool - 1)).foldl rebuildEntry st)

end L2tpns.Server
