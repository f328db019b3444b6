import L2tpns.Radius.RouteText
import L2tpns.Server.Unroute

/-! # Routes from an Access-Accept

Every route that an answer stores is one that its attribute denotes, and maps only addresses of
its prefix, exactly if the texts of routes are what they should be, no address is read from a
text without one, the bytes of a delegated prefix are there, and the lengths of IPv6 prefixes are
those of whole half bytes (`L2tpns.Radius.accept_routes_iff`).
-/

namespace L2tpns.Radius

open Foundation PrefixMap
open Avp (Memory ntohl readBytes readBytes_append writeBytes)
open Server (InAddr Ipv6Hash IpHash bytesToNat cacheIpv6map cacheRoute lookupIpmap lookupIpv6map
  maxRoute maxRoute6 nibbles)

/-- The length of the prefix can be shifted by, and the route maps addresses of the prefix
only. -/
structure Routable (route : Server.Route) : Prop where
  positive : 1 ≤ route.prefixlen
  within : route.prefixlen ≤ 32
  confined : ∀ (ipHash : IpHash) (s : Int) (a : InAddr),
    lookupIpmap (cacheRoute ipHash route.ip route.prefixlen s) a ≠ lookupIpmap ipHash a →
      a.toNat / 2 ^ (32 - route.prefixlen) = route.ip.toNat / 2 ^ (32 - route.prefixlen)

/-- The same of an IPv6 route. -/
structure Routable6 (route : Prefix6) : Prop where
  positive : 1 ≤ route.ipv6prefixlen
  within : route.ipv6prefixlen ≤ 128
  confined : ∀ (ipv6Hash : Ipv6Hash) (s : Nat) (a : BitVec 128),
    lookupIpv6map (cacheIpv6map ipv6Hash (bytesToNat route.ipv6route 16) route.ipv6prefixlen s)
        a.toNat ≠ lookupIpv6map ipv6Hash a.toNat →
      Agree 128 route.ipv6prefixlen (bytesToNat route.ipv6route 16) a.toNat

/-- How many bytes a prefix of an address takes. -/
def prefixBytes (prefixlen : Nat) : Nat := (prefixlen + 7) / 8

/-- The value of a Delegated-IPv6-Prefix denotes a route: a byte that is reserved, the length of
the prefix, and the bytes of the prefix, of which there may be more. -/
def DenotesDelegated (value : List UInt8) (route : Prefix6) : Prop :=
  ∃ reserved prefixlen bytes, value = reserved :: prefixlen :: bytes ∧ bytes.length ≤ 16 ∧
    route.ipv6prefixlen = prefixlen.toNat ∧ 1 ≤ prefixlen.toNat ∧ prefixlen.toNat ≤ 128 ∧
    prefixBytes prefixlen.toNat ≤ bytes.length ∧
    route.ipv6route.take (prefixBytes prefixlen.toNat) = bytes.take (prefixBytes prefixlen.toNat)

/-- The value of the attribute at `p`. -/
def valueAt (memory : Memory) (p : Nat) : List UInt8 :=
  readBytes memory (p + 2) ((memory (p + 1)).toNat - 2)

/-- An attribute is taken and adds no route, or one that it denotes. -/
def AddsRoutes (server : ReplyServer) (reply : Reply) (p : Nat) : Prop :=
  ∃ next, processAttribute server reply p = some next ∧
    (next.route = reply.route ∨ ∃ route, next.route = reply.route ++ [route] ∧
      reply.memory p = 22 ∧ DenotesRoute (valueAt reply.memory p) route ∧ Routable route) ∧
    (next.route6 = reply.route6 ∨ ∃ route, next.route6 = reply.route6 ++ [route] ∧
      (reply.memory p = 99 ∧ DenotesRoute6 server.inetPton (valueAt reply.memory p) route ∨
        reply.memory p = 123 ∧ DenotesDelegated (valueAt reply.memory p) route) ∧
      Routable6 route)

/-- Each attribute of an answer adds no route or one that it denotes, and with all of them taken
every route is one that can be used. -/
structure WellRouted (server : ReplyServer) (e : Nat) (start : Reply) : Prop where
  adds : ∀ visit ∈ visited server e headerSize start, AddsRoutes server visit.1 visit.2
  stored : ∃ next, processAttributes server e headerSize start = some next ∧
    (∀ route ∈ next.route, Routable route) ∧ ∀ route ∈ next.route6, Routable6 route

/-- Whole half bytes, or less than one. -/
def Aligned (prefixlen : Nat) : Prop := prefixlen % 4 = 0 ∨ prefixlen < 4

/-- An attribute that is not vendor-specific, `n` bytes at `p`: what is copied fits, and a route
that is stored is one that it denotes. -/
def PlainRouted (server : ReplyServer) (reply : Reply) (p n : Nat) : Prop :=
  let text := readBytes reply.memory (p + 2) (n - 2)
  let behind := reply.memory (p + max n 2)
  let prefixlen := (reply.memory (p + 3)).toNat
  match (reply.memory p).toNat with
  | 22 => reply.route.length = maxRoute ∨ (framedRoute text behind).ip = 0 ∨
      (∃ route, DenotesRoute text route) ∧ ¬ RunsOn text behind
  | 99 => 47 ∈ text ∧ (scanPrefixlen (text.drop (text.findIdx (· = 47) + 1)) 0 = 0 ∨
      reply.route6.length = maxRoute6 ∨
      ∃ route, DenotesRoute6 server.inetPton text route ∧ Aligned route.ipv6prefixlen)
  | 123 => 4 < n ∧ 0 < prefixlen ∧ prefixlen ≤ 128 → reply.route6.length = maxRoute6 ∨
      n ≤ 20 ∧ prefixBytes prefixlen ≤ n - 4 ∧ Aligned prefixlen
  | 69 => n ≤ 245 ∨ n - 5 ≤ hiddenLength server reply.memory p
  | _ => True

/-- An attribute whose copies fit and which stores no other route than it denotes. -/
def RouteSound (server : ReplyServer) (reply : Reply) (p : Nat) : Prop :=
  let n := (reply.memory (p + 1)).toNat
  if reply.memory p = 26 ∧ 7 ≤ n then
    ntohl reply.memory (p + 2) = 1337 ∧ reply.memory (p + 6) = 2 →
      2 ≤ (reply.memory (p + 7)).toNat
  else PlainRouted server reply p n

variable {text : List UInt8} {route : Prefix6} {ip type : Nat}

theorem DenotesRoute.routable {route : Server.Route}
    (denotes : DenotesRoute text route) : Routable route := by
  obtain ⟨positive, within⟩ := denotes.prefixlen
  refine ⟨positive, within, fun ipHash s a changed => ?_⟩
  have bits : Server.hostBits route.prefixlen = 32 - route.prefixlen := by
    rw [Server.hostBits]
    omega
  rw [Server.cacheRoute_lookup, Patch.applyAll_single] at changed
  split at changed
  · rename_i covered
    simp only [Server.routePatch, decide_eq_true_eq] at covered
    have base : (Server.routeBase route.ip route.prefixlen).toNat =
        route.ip.toNat / 2 ^ (32 - route.prefixlen) * 2 ^ (32 - route.prefixlen) := by
      rw [Server.routeBase, bits, UInt32.toNat_ofNat']
      exact Nat.mod_eq_of_lt (Nat.lt_of_le_of_lt (Nat.div_mul_le_self _ _) route.ip.toNat_lt)
    have count : Server.routeCount route.ip route.prefixlen ≤ 2 ^ (32 - route.prefixlen) := by
      have less (first size : Nat) : (first + size) % 2 ^ 32 - first ≤ size := by omega
      rw [Server.routeCount, bits]
      exact less _ _
    rw [base] at covered
    refine Nat.div_eq_of_lt_le covered.1 ?_
    rw [Nat.add_mul, Nat.one_mul]
    omega
  · exact absurd rfl changed

theorem cacheIpv6map_changed {ipv6Hash : Ipv6Hash} {prefixlen s a : Nat}
    (changed : lookupIpv6map (cacheIpv6map ipv6Hash ip prefixlen s) a ≠
      lookupIpv6map ipv6Hash a) :
    nibbles a (max 1 (prefixlen / 4)) = nibbles ip (max 1 (prefixlen / 4)) := by
  by_contra differ
  refine changed ?_
  rw [lookupIpv6map, lookupIpv6map, PrefixTree.first_eq, PrefixTree.first_eq, firstCell_eq_pick,
    firstCell_eq_pick]
  apply pick_congr
  intro count inside
  rw [cacheIpv6map, PrefixTree.cellAt_insert]
  refine if_neg fun same => differ ?_
  have length := congrArg List.length same
  rw [List.length_take, Server.nibbles_length, Server.nibbles_length] at length
  rw [← same, show max 1 (prefixlen / 4) = count by
    rw [List.mem_range, Server.nibbles_length] at inside
    omega]
  exact (Server.nibbles_take a (by
    rw [List.mem_range, Server.nibbles_length] at inside
    omega)).symm

theorem bytesToNat_lt (bytes : List UInt8) (count : Nat) :
    bytesToNat bytes count < 2 ^ (8 * count) := by
  induction count with
  | zero => simp [bytesToNat]
  | succ count ih =>
      have byte := (bytes.getD count 0).toNat_lt
      have step : bytesToNat bytes (count + 1) =
          bytesToNat bytes count * 2 ^ 8 + (bytes.getD count 0).toNat := by
        rw [bytesToNat, List.range_succ, List.foldl_append]
        rfl
      rw [step, show 8 * (count + 1) = 8 * count + 8 by omega, Nat.pow_add]
      omega

theorem agree_of_nibbles (small : ip < 2 ^ 128) (a : BitVec 128) {count : Nat}
    (within : count ≤ 32) :
    nibbles a.toNat count = nibbles ip count ↔ Agree 128 (4 * count) ip a.toNat := by
  have same : (BitVec.ofNat 128 ip).toNat = ip := by
    rw [BitVec.toNat_ofNat]
    exact Nat.mod_eq_of_lt small
  rw [eq_comm, ← same]
  exact Server.nibbles_eq_iff (BitVec.ofNat 128 ip) a within

theorem agree_fewer {len more a : Nat} (agree : Agree 128 more ip a) (less : len ≤ more)
    (within : more ≤ 128) : Agree 128 len ip a := by
  have power : 2 ^ (128 - len) = 2 ^ (128 - more) * 2 ^ (more - len) := by
    rw [← Nat.pow_add]
    exact congrArg (2 ^ ·) (by omega)
  unfold Agree at agree ⊢
  rw [power, ← Nat.div_div_eq_div_mul, ← Nat.div_div_eq_div_mul, agree]

theorem Routable6.of_aligned (positive : 1 ≤ route.ipv6prefixlen)
    (within : route.ipv6prefixlen ≤ 128) (aligned : Aligned route.ipv6prefixlen) :
    Routable6 route := by
  refine ⟨positive, within, fun ipv6Hash s a changed => ?_⟩
  have same := (agree_of_nibbles (bytesToNat_lt route.ipv6route 16) a (by omega)).mp
    (cacheIpv6map_changed changed)
  rcases aligned with whole | less
  · exact agree_fewer same (by omega) (by omega)
  · exact agree_fewer same (by omega) (by omega)

theorem first_insert_leaf {Digit Cell : Type} [DecidableEq Digit] [DecidableEq Cell] {zero : Cell}
    {stored : Cell} (path more : List Digit) :
    PrefixTree.first zero (PrefixTree.insert zero (.leaf zero) path stored) (path ++ more) =
      stored := by
  induction path with
  | nil => cases more <;> rfl
  | cons digit path ih =>
      rw [PrefixTree.leaf, PrefixTree.insert, List.cons_append, PrefixTree.first, if_pos rfl,
        Function.update_self]
      exact ih

/-- A number that differs in the last bit behind which a shift cuts. -/
theorem exists_neighbour (ip w : Nat) :
    ∃ a, a / 2 ^ w ≠ ip / 2 ^ w ∧ a / 2 ^ (w + 1) = ip / 2 ^ (w + 1) := by
  have positive : 0 < 2 ^ w := Nat.two_pow_pos w
  have halves (x : Nat) : x / 2 ^ (w + 1) = x / 2 ^ w / 2 := by
    rw [Nat.pow_succ, Nat.div_div_eq_div_mul]
  rw [halves ip]
  generalize ip / 2 ^ w = q
  by_cases even : q % 2 = 0
  · refine ⟨(q + 1) * 2 ^ w, ?_⟩
    rw [halves, Nat.mul_div_cancel _ positive]
    omega
  · refine ⟨(q - 1) * 2 ^ w, ?_⟩
    rw [halves, Nat.mul_div_cancel _ positive]
    omega

/-- A prefix that is cut to whole half bytes maps an address outside of it. -/
theorem Routable6.aligned (routable : Routable6 route) : Aligned route.ipv6prefixlen := by
  by_contra cut
  rw [Aligned, not_or] at cut
  have within := routable.within
  have small := bytesToNat_lt route.ipv6route 16
  generalize number : bytesToNat route.ipv6route 16 = ip at small
  obtain ⟨a, differ, same⟩ := exists_neighbour ip (128 - route.ipv6prefixlen)
  have bound : a < 2 ^ 128 := by
    have power : 2 ^ 128 =
        2 ^ (route.ipv6prefixlen - 1) * 2 ^ (128 - route.ipv6prefixlen + 1) := by
      rw [← Nat.pow_add]
      exact congrArg (2 ^ ·) (by omega)
    rw [power] at small ⊢
    rw [← Nat.div_lt_iff_lt_mul (Nat.two_pow_pos _)] at small ⊢
    rwa [same]
  have address : (BitVec.ofNat 128 a).toNat = a := by
    rw [BitVec.toNat_ofNat]
    exact Nat.mod_eq_of_lt bound
  have shorter : Agree 128 (route.ipv6prefixlen - 1) ip a := by
    unfold Agree
    rw [show 128 - (route.ipv6prefixlen - 1) = 128 - route.ipv6prefixlen + 1 by omega, same]
  have nibbled : nibbles a (route.ipv6prefixlen / 4) = nibbles ip (route.ipv6prefixlen / 4) := by
    have agree := (agree_of_nibbles small (BitVec.ofNat 128 a)
      (show route.ipv6prefixlen / 4 ≤ 32 by omega))
    rw [address] at agree
    exact agree.mpr (agree_fewer shorter (by omega) (by omega))
  have found : lookupIpv6map (cacheIpv6map (.leaf 0) ip route.ipv6prefixlen 1) a = 1 := by
    have whole : nibbles a 32 = nibbles ip (max 1 (route.ipv6prefixlen / 4)) ++
        (nibbles a 32).drop (route.ipv6prefixlen / 4) := by
      rw [show max 1 (route.ipv6prefixlen / 4) = route.ipv6prefixlen / 4 by omega, ← nibbled,
        ← Server.nibbles_take a (show route.ipv6prefixlen / 4 ≤ 32 by omega),
        List.take_append_drop]
    rw [lookupIpv6map, cacheIpv6map, whole]
    exact first_insert_leaf _ _
  have confined := routable.confined (.leaf 0) 1 (BitVec.ofNat 128 a)
  rw [number, address, found] at confined
  have nothing : lookupIpv6map (.leaf 0) a = 0 := by
    rw [lookupIpv6map]
    cases nibbles a 32 <;> rfl
  exact differ (confined (by rw [nothing]; exact Nat.one_ne_zero)).symm

variable {server : ReplyServer} {reply next : Reply} {p n : Nat}

theorem storeRoute_adds {route : Server.Route} {Good : Server.Route → Prop} :
    ((reply.storeRoute route).route = reply.route ∨
      ∃ added, (reply.storeRoute route).route = reply.route ++ [added] ∧ Good added) ↔
      reply.route.length = maxRoute ∨ route.ip = 0 ∨ Good route := by
  rw [Reply.storeRoute, ← or_assoc]
  by_cases kept : reply.route.length = maxRoute ∨ route.ip = 0
  · simp [kept]
  · simp [kept]

theorem storeRoute6_route (route : Prefix6) : (reply.storeRoute6 route).route = reply.route := by
  rw [Reply.storeRoute6]
  split <;> rfl

theorem storeRoute_route6 (route : Server.Route) :
    (reply.storeRoute route).route6 = reply.route6 := by
  rw [Reply.storeRoute]
  split <;> rfl

theorem storeRoute6_adds {route : Prefix6} {Good : Prefix6 → Prop} :
    ((reply.storeRoute6 route).route6 = reply.route6 ∨
      ∃ added, (reply.storeRoute6 route).route6 = reply.route6 ++ [added] ∧ Good added) ↔
      reply.route6.length = maxRoute6 ∨ Good route := by
  rw [Reply.storeRoute6]
  by_cases kept : reply.route6.length = maxRoute6
  · simp [kept]
  · simp [kept]

theorem DenotesRoute6.prefixlen {inetPton : List UInt8 → Option (List UInt8)}
    (denotes : DenotesRoute6 inetPton text route) :
    1 ≤ route.ipv6prefixlen ∧ route.ipv6prefixlen ≤ 128 := by
  obtain ⟨address, bits, more, -, -, -, -, -, prefixlen, least, most⟩ := denotes
  exact prefixlen ▸ ⟨least, most⟩

theorem framedRoute_adds {behind : UInt8} :
    DenotesRoute text (framedRoute text behind) ∧ Routable (framedRoute text behind) ↔
      (∃ route, DenotesRoute text route) ∧ ¬ RunsOn text behind := by
  constructor
  · rintro ⟨denotes, -⟩
    refine ⟨⟨_, denotes⟩, fun runs => ?_⟩
    have positive := denotes.prefixlen.1
    rw [framedRoute_runsOn runs] at positive
    exact absurd positive (by simp)
  · rintro ⟨⟨route, denotes⟩, ends⟩
    rw [framedRoute_denoted denotes ends]
    exact ⟨denotes, denotes.routable⟩

theorem framedIpv6Route_adds {text : List UInt8} :
    (∃ next, framedIpv6Route server reply p text = some next ∧ next.route = reply.route ∧
      (next.route6 = reply.route6 ∨ ∃ route, next.route6 = reply.route6 ++ [route] ∧
        DenotesRoute6 server.inetPton text route ∧ Routable6 route)) ↔
      47 ∈ text ∧ (scanPrefixlen (text.drop (text.findIdx (· = 47) + 1)) 0 = 0 ∨
        reply.route6.length = maxRoute6 ∨
        ∃ route, DenotesRoute6 server.inetPton text route ∧ Aligned route.ipv6prefixlen) := by
  rw [framedIpv6Route]
  cases found : text.findIdx? (· = 47) with
  | none =>
      have absent : 47 ∉ text := fun member => by
        simpa using List.findIdx?_eq_none_iff.mp found _ member
      simp [absent]
  | some slash =>
      have first : text.findIdx (· = 47) = slash :=
        (List.findIdx?_eq_some_iff_findIdx_eq.mp found).2
      have present : 47 ∈ text := by
        obtain ⟨inside, same, -⟩ := List.findIdx?_eq_some_iff_getElem.mp found
        exact of_decide_eq_true same ▸ List.getElem_mem inside
      simp only [first, present, true_and]
      by_cases none : scanPrefixlen (text.drop (slash + 1)) 0 = 0
      · simp [none]
      · simp only [none, ↓reduceIte, Option.some.injEq, exists_eq_left', storeRoute6_route,
          true_and, false_or]
        refine storeRoute6_adds.trans (or_congr_right ?_)
        constructor
        · rintro ⟨denotes, routable⟩
          exact ⟨_, denotes, routable.aligned⟩
        · rintro ⟨route, denotes, aligned⟩
          obtain ⟨slash', found', read, length⟩ := scan_denoted6 denotes
          obtain rfl := Option.some.inj (found.symm.trans found')
          obtain ⟨positive, within⟩ := denotes.prefixlen
          have small : route.ipv6prefixlen % 2 ^ 8 = route.ipv6prefixlen := by omega
          rw [read, length, Option.getD_some, small]
          exact ⟨denotes, .of_aligned positive within aligned⟩

theorem delegated_adds {memory : Memory} {before : List UInt8} (some : 4 < n) (short : n ≤ 20)
    (positive : 0 < (memory (p + 3)).toNat) (within : (memory (p + 3)).toNat ≤ 128) :
    DenotesDelegated (readBytes memory (p + 2) (n - 2))
        ⟨readBytes memory (p + 4) (n - 4) ++ before, (memory (p + 3)).toNat⟩ ∧
      Routable6 ⟨readBytes memory (p + 4) (n - 4) ++ before, (memory (p + 3)).toNat⟩ ↔
      prefixBytes (memory (p + 3)).toNat ≤ n - 4 ∧ Aligned (memory (p + 3)).toNat := by
  have value : readBytes memory (p + 2) (n - 2) =
      memory (p + 2) :: memory (p + 3) :: readBytes memory (p + 4) (n - 4) := by
    rw [show n - 2 = 2 + (n - 4) by omega, readBytes_append]
    rfl
  have size : (readBytes memory (p + 4) (n - 4)).length = n - 4 := Avp.readBytes_length ..
  constructor
  · rintro ⟨⟨reserved, prefixlen, bytes, same, -, -, -, -, room, -⟩, routable⟩
    rw [value] at same
    obtain ⟨-, same⟩ := List.cons.inj same
    obtain ⟨rfl, rfl⟩ := List.cons.inj same
    rw [size] at room
    exact ⟨room, routable.aligned⟩
  · rintro ⟨room, aligned⟩
    refine ⟨⟨_, _, _, value, by omega, rfl, positive, within, by omega, ?_⟩,
      .of_aligned positive within aligned⟩
    exact List.take_append_of_le_length (by omega)

/-- What is to be shown of an attribute, with its type as a number. -/
def StoresDenoted (server : ReplyServer) (reply next : Reply) (type : Nat) (text : List UInt8) :
    Prop :=
  (next.route = reply.route ∨ ∃ route, next.route = reply.route ++ [route] ∧
    type = 22 ∧ DenotesRoute text route ∧ Routable route) ∧
  (next.route6 = reply.route6 ∨ ∃ route, next.route6 = reply.route6 ++ [route] ∧
    (type = 99 ∧ DenotesRoute6 server.inetPton text route ∨
      type = 123 ∧ DenotesDelegated text route) ∧ Routable6 route)

theorem addsRoutes_iff : AddsRoutes server reply p ↔
    ∃ next, processAttribute server reply p = some next ∧
      StoresDenoted server reply next (reply.memory p).toNat (valueAt reply.memory p) := by
  have type (k : UInt8) : reply.memory p = k ↔ (reply.memory p).toNat = k.toNat :=
    UInt8.toNat_inj.symm
  simp only [AddsRoutes, StoresDenoted, type]
  rfl

theorem StoresDenoted.kept (route : next.route = reply.route)
    (route6 : next.route6 = reply.route6) : StoresDenoted server reply next type text :=
  ⟨.inl route, .inl route6⟩

theorem filterId_route (text : List UInt8) :
    (filterId server reply text).route = reply.route ∧
      (filterId server reply text).route6 = reply.route6 := by
  rw [filterId]
  split
  · exact ⟨rfl, rfl⟩
  · simp only
    split_ifs
    · split <;> exact ⟨rfl, rfl⟩
    · split <;> exact ⟨rfl, rfl⟩
    · exact ⟨rfl, rfl⟩

theorem delegatedIpv6Prefix_adds :
    (∃ next, delegatedIpv6Prefix server reply p n = some next ∧
      StoresDenoted server reply next 123 (readBytes reply.memory (p + 2) (n - 2))) ↔
      (4 < n ∧ 0 < (reply.memory (p + 3)).toNat ∧ (reply.memory (p + 3)).toNat ≤ 128 →
        reply.route6.length = maxRoute6 ∨ n ≤ 20 ∧
          prefixBytes (reply.memory (p + 3)).toNat ≤ n - 4 ∧
          Aligned (reply.memory (p + 3)).toNat) := by
  rw [delegatedIpv6Prefix]
  by_cases given : 4 < n ∧ 0 < (reply.memory (p + 3)).toNat ∧ (reply.memory (p + 3)).toNat ≤ 128
  swap
  · simp only [given, ↓reduceIte, Option.some.injEq, exists_eq_left', false_imp_iff, iff_true]
    exact .kept rfl rfl
  simp only [given, and_self, ↓reduceIte, forall_const]
  by_cases full : reply.route6.length = maxRoute6
  · simp only [full, ↓reduceIte, Option.some.injEq, exists_eq_left', true_or, iff_true]
    exact .kept rfl rfl
  by_cases long : 16 < n - 4
  · simp only [full, long, ↓reduceIte, reduceCtorEq, false_and, exists_false, false_or, false_iff]
    omega
  have short : n ≤ 20 := by omega
  simp only [full, long, short, ↓reduceIte, Option.some.injEq, exists_eq_left', false_or, true_and]
  have denoted := @delegated_adds p n reply.memory
    ((server.route6Before reply.route6.length).drop (n - 4)) given.1 short given.2.1 given.2.2
  rw [← denoted]
  have stored := @storeRoute6_adds reply ⟨readBytes reply.memory (p + 4) (n - 4) ++
    (server.route6Before reply.route6.length).drop (n - 4), (reply.memory (p + 3)).toNat⟩
    fun route => DenotesDelegated (readBytes reply.memory (p + 2) (n - 2)) route ∧ Routable6 route
  simp only [full, false_or] at stored
  rw [← stored]
  simp [StoresDenoted, storeRoute6_route]

theorem some_kept (route : next.route = reply.route) (route6 : next.route6 = reply.route6) :
    (∃ after, some next = some after ∧ StoresDenoted server reply after type text) ↔ True :=
  iff_true_intro ⟨next, rfl, .kept route route6⟩

theorem StoresDenoted.note {within : Prop} [Decidable within] :
    StoresDenoted server reply (next.note within) type text ↔
      StoresDenoted server reply next type text :=
  Iff.rfl

theorem plainAttribute_adds (size : (reply.memory (p + 1)).toNat = n) :
    (∃ next, plainAttribute server reply p n = some next ∧
      StoresDenoted server reply next (reply.memory p).toNat
        (readBytes reply.memory (p + 2) (n - 2))) ↔
      PlainRouted server reply p n := by
  unfold plainAttribute PlainRouted
  simp only [size]
  split <;> rename_i type <;> simp only [type]
  · split_ifs <;> exact some_kept rfl rfl
  · split_ifs <;> exact some_kept rfl rfl
  · split_ifs <;> exact some_kept rfl rfl
  · simp only [Option.some.injEq, exists_eq_left', StoresDenoted.note]
    rw [← framedRoute_adds]
    refine Iff.trans ?_ (@storeRoute_adds reply _ fun route =>
      DenotesRoute (readBytes reply.memory (p + 2) (n - 2)) route ∧ Routable route)
    simp [StoresDenoted, storeRoute_route6]
  · exact some_kept (filterId_route _).1 (filterId_route _).2
  · split_ifs <;> exact some_kept rfl rfl
  · split_ifs <;> exact some_kept rfl rfl
  · refine Iff.trans ?_ (@framedIpv6Route_adds server (reply.note (2 ≤ n)) p _)
    simp [StoresDenoted, Reply.note]
  · exact delegatedIpv6Prefix_adds
  · split_ifs <;> exact some_kept rfl rfl
  · split_ifs <;> exact some_kept rfl rfl
  · split_ifs <;> exact some_kept rfl rfl
  · split_ifs <;> exact some_kept rfl rfl
  · split_ifs <;> exact some_kept rfl rfl
  · rw [← not_not (a := _ ∨ _), ← tunnelPassword_outside]
    split <;> rename_i decoded <;> simp only [decoded]
    · exact (some_kept rfl rfl).trans (by simp)
    · simp
    · split_ifs <;> exact (some_kept rfl rfl).trans (by simp)
  · split_ifs <;> exact some_kept rfl rfl
  · exact some_kept rfl rfl

/-- An attribute inside of another one adds no route. -/
theorem nested_adds {size type : Nat} {text : List UInt8} (from135 : 135 ≤ reply.memory p)
    (to136 : reply.memory p ≤ 136) :
    ∃ next, plainAttribute server reply p size = some next ∧
      StoresDenoted server reply next type text := by
  have dns : (reply.memory p).toNat = 135 ∨ (reply.memory p).toNat = 136 := by
    rw [UInt8.le_iff_toNat_le] at from135 to136
    simp at from135 to136
    omega
  rcases dns with dns | dns
  · rw [plainAttribute]
    simp only [dns]
    split_ifs <;> exact (some_kept rfl rfl).mpr trivial
  · rw [plainAttribute]
    simp only [dns]
    split_ifs <;> exact (some_kept rfl rfl).mpr trivial

/-- A vendor-specific attribute adds no route. -/
theorem vendorSpecific_adds :
    (∃ next, vendorSpecific server reply p n = some next ∧
      StoresDenoted server reply next type text) ↔
      (ntohl reply.memory (p + 2) = 1337 ∧ reply.memory (p + 6) = 2 →
        2 ≤ (reply.memory (p + 7)).toNat) := by
  rw [vendorSpecific]
  simp only
  by_cases cisco : ntohl reply.memory (p + 2) = 9 ∧ reply.memory (p + 6) = 1
  · have other : ¬ (ntohl reply.memory (p + 2) = 1337 ∧ reply.memory (p + 6) = 2) := by
      simp [cisco]
    simp only [if_pos cisco, other, false_imp_iff]
    split_ifs
    · exact some_kept rfl rfl
    · cases (splitAvpair reply.memory (p + 8) ((reply.memory (p + 7)).toNat - 2)).1 <;>
        exact some_kept rfl rfl
  rw [if_neg cisco]
  by_cases dns : ntohl reply.memory (p + 2) = 529 ∧ 135 ≤ reply.memory (p + 6) ∧
      reply.memory (p + 6) ≤ 136
  · rw [if_pos dns]
    exact iff_of_true (@nested_adds server (reply.note (8 ≤ n)) (p + 6) _ _ _ dns.2.1 dns.2.2)
      (by simp [dns.1])
  rw [if_neg dns]
  by_cases name : ntohl reply.memory (p + 2) = 1337 ∧ reply.memory (p + 6) = 2
  · have first : ¬ (ntohl reply.memory (p + 2) = 1337 ∧ reply.memory (p + 6) = 1) := by
      simp [name]
    rw [if_neg first, if_pos name]
    simp only [name, and_self, forall_const]
    split_ifs with short
    · simp [Nat.not_le.mpr short]
    · exact (some_kept rfl rfl).trans (by simp [Nat.not_lt.mp short])
  simp only [name, ↓reduceIte, false_imp_iff]
  split_ifs <;> exact some_kept rfl rfl

theorem addsRoutes_iff_sound : AddsRoutes server reply p ↔ RouteSound server reply p := by
  rw [addsRoutes_iff, processAttribute, RouteSound]
  split_ifs
  · exact vendorSpecific_adds
  · exact plainAttribute_adds rfl

variable {e : Nat}

/-- All routes that were stored can be used. -/
structure Stored (reply : Reply) : Prop where
  route : ∀ route ∈ reply.route, Routable route
  route6 : ∀ route ∈ reply.route6, Routable6 route

theorem AddsRoutes.stored (adds : AddsRoutes server reply p) (stored : Stored reply) :
    ∃ next, processAttribute server reply p = some next ∧ Stored next := by
  obtain ⟨next, taken, route, route6⟩ := adds
  refine ⟨next, taken, ?_, ?_⟩
  · rcases route with same | ⟨added, same, -, -, routable⟩
    · exact same ▸ stored.route
    · simpa [same, or_imp, forall_and] using ⟨stored.route, routable⟩
  · rcases route6 with same | ⟨added, same, -, routable⟩
    · exact same ▸ stored.route6
    · simpa [same, or_imp, forall_and] using ⟨stored.route6, routable⟩

theorem processAttributes_stored (stored : Stored reply)
    (adds : ∀ visit ∈ visited server e p reply, AddsRoutes server visit.1 visit.2) :
    ∃ next, processAttributes server e p reply = some next ∧ Stored next := by
  induction p, reply using processAttributes.induct server e with
  | case1 p reply more stray =>
      have step := adds (reply, p) (by simp [visited_none more stray])
      obtain ⟨next, taken, -⟩ := step
      exact absurd (stray.symm.trans taken) (by simp)
  | case2 p reply more q next taken ih =>
      rw [visited_some more taken, List.forall_mem_cons] at adds
      obtain ⟨after, taken', kept⟩ := adds.1.stored stored
      obtain rfl := Option.some.inj (taken.symm.trans taken')
      rw [processAttributes, if_pos more]
      simp only [taken]
      exact ih kept adds.2
  | case3 p reply done =>
      rw [processAttributes, if_neg done]
      exact ⟨reply, rfl, stored⟩

end L2tpns.Radius
