import L2tpns.Foundation.Patches
import L2tpns.Server.Filters
import L2tpns.Server.Ipv6Map

/-! # Whose addresses a teardown unmaps

A route or an address that is deleted is overwritten in the maps, whoever the cells belong
to. What a shutdown, a kill and an update with a cleared session write is a list of patches
(`L2tpns.Server.Patched`), and an address resolves as before exactly if the patches leave
its cell alone (`L2tpns.Server.teardown_resolves_iff`).
-/

namespace L2tpns.Server

open Foundation State

/-- Patches of `ip_hash`. -/
abbrev IpPatches := List (Patch InAddr Nat)

/-- Patches of `ipv6_hash`, by the half bytes of a prefix. -/
abbrev Ipv6Patches := List (Patch (List Nat) Nat)

def routePatch (ip : InAddr) (prefixlen : Nat) (s : Int) : Patch InAddr Nat where
  covers other := (routeBase ip prefixlen).toNat ≤ other.toNat ∧
    other.toNat < (routeBase ip prefixlen).toNat + routeCount ip prefixlen
  value := (s % 2 ^ 16).toNat

def addressPatch (ip : InAddr) (s : Int) : Patch InAddr Nat where
  covers other := other = ip
  value := (s % 2 ^ 16).toNat

def nodePatch (ip prefixlen s : Nat) : Patch (List Nat) Nat where
  covers path := path = nibbles ip (max 1 (prefixlen / 4))
  value := s

/-- The maps were patched, and which sessions are open, and the prefix of the server, did
not change. -/
structure Patched (st st' : State) (patches : IpPatches) (patches6 : Ipv6Patches) : Prop where
  cells : ∀ ip, lookupIpmap st'.ipHash ip = Patch.applyAll patches (lookupIpmap st.ipHash) ip
  nodes : ∀ path, PrefixTree.cellAt 0 st'.ipv6Hash path =
    Patch.applyAll patches6 (PrefixTree.cellAt 0 st.ipv6Hash) path
  config : st'.config = st.config

namespace Patched

variable {st st' st'' : State} {patches later : IpPatches} {patches6 later6 : Ipv6Patches}

theorem of_same (ipHash : st'.ipHash = st.ipHash) (ipv6Hash : st'.ipv6Hash = st.ipv6Hash)
    (config : st'.config = st.config) : Patched st st' [] [] := by
  refine ⟨fun ip => ?_, fun path => ?_, config⟩
  · rw [ipHash]
    rfl
  · rw [ipv6Hash]
    rfl

theorem refl (st : State) : Patched st st [] [] := of_same rfl rfl rfl

theorem trans (first : Patched st st' patches patches6) (second : Patched st' st'' later later6) :
    Patched st st'' (patches ++ later) (patches6 ++ later6) := by
  refine ⟨fun ip => ?_, fun path => ?_, second.config.trans first.config⟩
  · rw [second.cells, Patch.applyAll_append, Patch.applyAll_congr (first.cells ip)]
  · rw [second.nodes, Patch.applyAll_append, Patch.applyAll_congr (first.nodes path)]

theorem andThen (patched : Patched st st' patches patches6) (ipHash : st''.ipHash = st'.ipHash)
    (ipv6Hash : st''.ipv6Hash = st'.ipv6Hash) (config : st''.config = st'.config) :
    Patched st st'' patches patches6 := by
  have both := patched.trans (of_same ipHash ipv6Hash config)
  rw [List.append_nil, List.append_nil] at both
  exact both

theorem emit (patched : Patched st st' patches patches6) (effect : Effect) :
    Patched st (st'.emit effect) patches patches6 :=
  patched.andThen rfl rfl rfl

end Patched

variable {st : State} {s : Nat}

theorem cacheIp_patched (ip : InAddr) (v : Int) :
    Patched st (st.cacheIp ip v) [addressPatch ip v] [] := by
  refine ⟨fun other => ?_, fun _ => rfl, rfl⟩
  rw [Patch.applyAll_single]
  refine (lookup_cacheIpmap st.ipHash ip other v).trans ?_
  exact if_congr (decide_eq_true_iff).symm rfl rfl

theorem cacheIp6_patched (ip prefixlen v : Nat) :
    Patched st (st.cacheIp6 ip prefixlen v) [] [nodePatch ip prefixlen v] := by
  refine ⟨fun _ => rfl, fun path => ?_, rfl⟩
  rw [Patch.applyAll_single]
  refine (PrefixTree.cellAt_insert st.ipv6Hash _ path v).trans ?_
  exact if_congr (decide_eq_true_iff).symm rfl rfl

theorem routeCount_fits (ip : InAddr) (prefixlen : Nat) :
    (routeBase ip prefixlen).toNat + routeCount ip prefixlen ≤ 2 ^ 32 := by
  have bound := (routeBase ip prefixlen).toNat_lt
  have wraps : ((routeBase ip prefixlen).toNat + 2 ^ hostBits prefixlen) % 2 ^ 32 < 2 ^ 32 :=
    Nat.mod_lt _ (by decide)
  rw [routeCount]
  omega

theorem cacheRoute_lookup (ipHash : IpHash) (ip : InAddr) (prefixlen : Nat) (v : Int)
    (other : InAddr) :
    lookupIpmap (cacheRoute ipHash ip prefixlen v) other =
      Patch.applyAll [routePatch ip prefixlen v] (lookupIpmap ipHash) other := by
  rw [cacheRoute, lookup_cacheRange ipHash v (routeCount_fits ip prefixlen),
    Patch.applyAll_single]
  exact if_congr (decide_eq_true_iff).symm rfl rfl

theorem routeset_patched (some : s ≠ 0) (ip : InAddr) (prefixlen : Nat) (add : Bool) :
    Patched st (routeset st s ip prefixlen add)
      [routePatch ip prefixlen (if add then (s : Int) else 0)] [] := by
  rw [routeset, if_neg some]
  exact ⟨cacheRoute_lookup st.ipHash ip prefixlen _, fun _ => rfl, rfl⟩

theorem routesetAll_patched (some : s ≠ 0) (add : Bool) (routes : List Route) (st : State) :
    Patched st (routesetAll st s add routes)
      (routes.map fun route =>
        routePatch route.ip route.prefixlen (if add then (s : Int) else 0)) [] := by
  induction routes generalizing st with
  | nil => exact Patched.refl st
  | cons route routes ih => exact (routeset_patched some _ _ add).trans (ih _)

theorem cacheRoutes_patched (v : Int) (routes : List Route) (st : State) :
    Patched st { st with ipHash := cacheRoutes st.ipHash v routes }
      (routes.map fun route => routePatch route.ip route.prefixlen v) [] := by
  induction routes generalizing st with
  | nil => exact Patched.refl st
  | cons route routes ih =>
      have first : Patched st { st with ipHash := cacheRoute st.ipHash route.ip route.prefixlen v }
          [routePatch route.ip route.prefixlen v] [] :=
        ⟨cacheRoute_lookup st.ipHash route.ip route.prefixlen v, fun _ => rfl, rfl⟩
      exact first.trans (ih _)

/-- The patch of an IPv6 route, if IPv6 is configured. -/
def route6Patches (st : State) (ip prefixlen v : Nat) : Ipv6Patches :=
  if st.config.ipv6Prefix.headD 0 = 0 then [] else [nodePatch ip prefixlen v]

theorem route6set_patched (some : s ≠ 0) (ip prefixlen : Nat) (add : Bool) :
    Patched st (route6set st s ip prefixlen add) []
      (route6Patches st ip prefixlen (if add then s else 0)) := by
  simp only [route6set, route6Patches]
  rw [if_neg some]
  split
  · exact Patched.refl st
  · have told : Patched st (st.emit (.route6 s ip prefixlen add)) [] [] :=
      Patched.of_same rfl rfl rfl
    exact told.trans (cacheIp6_patched ip prefixlen _)

theorem route6setAll_patched (some : s ≠ 0) (add : Bool) (routes : List Route6) (st : State) :
    Patched st (routes.foldl (fun st route =>
        route6set st s route.ipv6route route.ipv6prefixlen add) st) []
      (routes.flatMap fun route =>
        route6Patches st route.ipv6route route.ipv6prefixlen (if add then s else 0)) := by
  induction routes generalizing st with
  | nil => exact Patched.refl st
  | cons route routes ih =>
      have first := @route6set_patched st s some route.ipv6route route.ipv6prefixlen add
      have rest := ih (route6set st s route.ipv6route route.ipv6prefixlen add)
      simp only [route6Patches, first.config] at rest
      exact first.trans rest

/-- The routes of a session, mapped to `v`. -/
def routePatches (st : State) (s : Nat) (v : Int) : IpPatches :=
  (st.session s).route.map fun route => routePatch route.ip route.prefixlen v

/-- A shutdown deletes the routes, if they are to be deleted, and unmaps the address: one of
its own unless a route covers it, one of the pool to the negated index. -/
def ownPatches (st : State) (s : Nat) (delRoutes : Bool) : IpPatches :=
  let session := st.session s
  (if delRoutes then routePatches st s 0 else []) ++
    if session.ipPoolIndex = -1 then
      if ¬ session.route.any (·.covers session.ip) ∧ delRoutes then [routePatch session.ip 0 0]
      else []
    else [addressPatch session.ip (-(session.ipPoolIndex.toNat : Int))]

/-- The IPv6 routes and address that a session has. -/
def deleted6 (st : State) (s : Nat) : Ipv6Patches :=
  let session := st.session s
  ((session.route6.takeWhile fun route =>
      hasIpv6 route.ipv6route && route.ipv6prefixlen ≠ 0).flatMap fun route =>
    route6Patches st route.ipv6route route.ipv6prefixlen 0) ++
    if hasIpv6 session.ipv6address then route6Patches st session.ipv6address 128 0 else []

/-- A new first link takes the address of the bundle over. -/
def heirPatches (st : State) (s : Nat) : IpPatches :=
  routePatches st s s ++ [addressPatch (st.session s).ip s]

def heirPatches6 (st : State) (s : Nat) : Ipv6Patches :=
  let session := st.session s
  ((session.route6.takeWhile fun route => route.ipv6prefixlen ≠ 0).map fun route =>
    nodePatch route.ipv6route route.ipv6prefixlen s) ++
    if hasIpv6 session.ipv6address then [nodePatch session.ipv6address 128 s] else []

/-- The link that becomes the first of a bundle when a link leaves. -/
def heir (st : State) (s b : Nat) : Option Nat :=
  let links := ((st.bundle b).numOfLinks + 255) % 2 ^ 8
  let members := (st.bundle b).members
  if b = 0 ∨ links = 0 ∨ members links = s ∨ memberPosition members s links ≠ 0 then none
  else some (members links)

theorem unroute_patched (some : s ≠ 0) (addressed : (st.session s).ip ≠ 0) (delRoutes : Bool) :
    Patched st (unroute st s delRoutes) (ownPatches st s delRoutes) [] := by
  have deletes : Patched st (if delRoutes then routesetAll st s false (st.session s).route else st)
      (if delRoutes then routePatches st s 0 else []) [] := by
    split
    · exact routesetAll_patched some false _ st
    · exact Patched.refl st
  have session : (if delRoutes then routesetAll st s false (st.session s).route else st).session =
      st.session := by
    split
    · exact routesetAll_session ..
    · rfl
  simp only [unroute, ownPatches]
  generalize (if delRoutes then routesetAll st s false (st.session s).route else st) = deleted
    at deletes session ⊢
  have clears : Patched st (deleted.setSession s fun session => { session with route := [] })
      (if delRoutes then routePatches st s 0 else []) [] := deletes.andThen rfl rfl rfl
  have ip : ((deleted.setSession s fun session => { session with route := [] }).session s).ip =
      (st.session s).ip := by rw [setSession_same, session]
  have index : ((deleted.setSession s fun session =>
      { session with route := [] }).session s).ipPoolIndex = (st.session s).ipPoolIndex := by
    rw [setSession_same, session]
  generalize (deleted.setSession s fun session => { session with route := [] }) = cleared
    at clears ip index ⊢
  split
  · split
    · exact (clears.trans (routeset_patched some _ 0 false)).andThen rfl rfl rfl
    · exact (clears.trans (Patched.refl cleared)).andThen rfl rfl rfl
  · simp only [freeIpAddress]
    rw [if_neg (by rw [ip]; exact addressed), ip, index]
    have mapped := clears.trans (@cacheIp_patched cleared (st.session s).ip
      (-((st.session s).ipPoolIndex.toNat : Int)))
    exact mapped.andThen rfl rfl rfl

theorem unroute6_patched (some : s ≠ 0) (delRoutes : Bool) :
    Patched st (unroute6 st s delRoutes) [] (if delRoutes then deleted6 st s else []) := by
  cases delRoutes with
  | false => exact Patched.of_same rfl rfl rfl
  | true =>
      simp only [unroute6, deleted6, if_true]
      generalize ((st.session s).route6.takeWhile fun route =>
        hasIpv6 route.ipv6route && route.ipv6prefixlen ≠ 0) = routes
      have clears : Patched st (st.setSession s fun session =>
          { session with route6 := if routes = [] then session.route6 else [] }) [] [] :=
        Patched.of_same rfl rfl rfl
      have deletes := clears.trans (route6setAll_patched some false routes _)
      split
      · refine deletes.trans ?_
        have config := deletes.config
        have address := @route6set_patched (routes.foldl (fun st route =>
          route6set st s route.ipv6route route.ipv6prefixlen false) (st.setSession s fun session =>
            { session with route6 := if routes = [] then session.route6 else [] })) s some
          (st.session s).ipv6address 128 false
        simp only [route6Patches, config] at address
        exact address
      · exact deletes.trans (Patched.refl _)

theorem cacheIp6All_patched (v : Nat) (routes : List Route6) (st : State) :
    Patched st (routes.foldl (fun st route =>
        st.cacheIp6 route.ipv6route route.ipv6prefixlen v) st) []
      (routes.map fun route => nodePatch route.ipv6route route.ipv6prefixlen v) := by
  induction routes generalizing st with
  | nil => exact Patched.refl st
  | cons route routes ih => exact (cacheIp6_patched _ _ _).trans (ih _)

theorem takeOver_patched (s : Nat) :
    Patched st (takeOver st s) (heirPatches st s) (heirPatches6 st s) := by
  have mapped := (cacheRoutes_patched (s : Int) (st.session s).route st).trans
    (cacheIp_patched (st.session s).ip (s : Int))
  have routed := mapped.trans (cacheIp6All_patched s ((st.session s).route6.takeWhile fun route =>
    route.ipv6prefixlen ≠ 0) _)
  rw [List.append_nil] at routed
  simp only [takeOver, heirPatches6]
  split
  · have addressed := routed.trans (cacheIp6_patched (st.session s).ipv6address 128 s)
    rw [List.append_nil] at addressed
    exact addressed
  · rw [List.append_nil]
    exact routed

theorem takeOver_moved {moved : State} (same : Patched st moved [] [])
    (session : moved.session = st.session) (s : Nat) :
    Patched st (takeOver moved s) (heirPatches st s) (heirPatches6 st s) := by
  have taken := same.trans (@takeOver_patched moved s)
  unfold heirPatches heirPatches6 routePatches at taken ⊢
  rw [session] at taken
  exact taken

/-- What a link that leaves its bundle writes. -/
def leavePatches (st : State) (s b : Nat) : IpPatches :=
  match heir st s b with
  | some first => heirPatches st first
  | none => []

def leavePatches6 (st : State) (s b : Nat) : Ipv6Patches :=
  match heir st s b with
  | some first => heirPatches6 st first
  | none => []

theorem leaveBundle_patched (s b : Nat) :
    Patched st (leaveBundle st s b) (leavePatches st s b) (leavePatches6 st s b) := by
  simp only [leaveBundle, leavePatches, leavePatches6, heir]
  by_cases unlinked : b = 0
  · rw [if_pos unlinked, if_pos (.inl unlinked)]
    exact Patched.refl st
  rw [if_neg unlinked]
  apply Patched.emit
  by_cases freed : ((st.bundle b).numOfLinks + 255) % 2 ^ 8 = 0
  · rw [if_pos freed, if_pos (.inr (.inl freed))]
    exact Patched.of_same rfl rfl rfl
  rw [if_neg freed]
  by_cases last : (st.bundle b).members (((st.bundle b).numOfLinks + 255) % 2 ^ 8) = s
  · rw [if_pos last, if_pos (.inr (.inr (.inl last)))]
    exact Patched.of_same rfl rfl rfl
  rw [if_neg last]
  by_cases first : memberPosition (st.bundle b).members s
      (((st.bundle b).numOfLinks + 255) % 2 ^ 8) = 0
  · have leaves : ¬ (b = 0 ∨ ((st.bundle b).numOfLinks + 255) % 2 ^ 8 = 0 ∨
        (st.bundle b).members (((st.bundle b).numOfLinks + 255) % 2 ^ 8) = s ∨
          memberPosition (st.bundle b).members s
            (((st.bundle b).numOfLinks + 255) % 2 ^ 8) ≠ 0) := by
      rintro (none | none | none | moved)
      · exact unlinked none
      · exact freed none
      · exact last none
      · exact moved first
    rw [if_pos first, if_neg leaves]
    apply takeOver_moved
    · exact Patched.of_same rfl rfl rfl
    · rfl
  · rw [if_neg first, if_pos (.inr (.inr (.inr first)))]
    exact Patched.of_same rfl rfl rfl

theorem accounted_ipv6Hash (s : Nat) (reason : String) (termCause : Option TermCause) :
    (accounted st s reason termCause).ipv6Hash = st.ipv6Hash := by
  have allocated (st : State) : (radiusnew st s).1.ipv6Hash = st.ipv6Hash := by
    simp only [radiusnew]
    split_ifs <;> rfl
  have cleared (st : State) (r s : Nat) : (radiusclear st r s).ipv6Hash = st.ipv6Hash := by
    simp only [radiusclear]
    split <;> rfl
  have sent (st : State) (r : Nat) (request : RadiusState) :
      (radiussendAccounting st r request).ipv6Hash = st.ipv6Hash := by
    simp only [radiussendAccounting, radiussendOr]
    split_ifs
    all_goals first
      | rfl
      | exact cleared ..
  have stopped (st : State) : (startStop st s reason termCause).ipv6Hash = st.ipv6Hash := by
    simp only [startStop]
    split_ifs
    · exact allocated st
    · exact allocated st
    · exact (sent ..).trans (allocated st)
  have saved (st : State) : (saveCounters st s).ipv6Hash = st.ipv6Hash := by
    rw [saveCounters]
    split <;> rfl
  have announced : (announceKill st s).ipv6Hash = st.ipv6Hash := by
    rw [announceKill]
    split <;> rfl
  rw [accounted, accountOnce]
  split
  · rw [saved, stopped, announced]
  · exact announced

theorem finishShutdown_ipv6Hash (s cdnResult cdnError : Nat) :
    (finishShutdown st s cdnResult cdnError).ipv6Hash = st.ipv6Hash := by
  have unused (st : State) (filter : Nat) : (unuseFilter st filter).ipv6Hash = st.ipv6Hash := by
    rw [unuseFilter]
    split <;> rfl
  have told (st : State) : (sendCdn st s cdnResult cdnError).ipv6Hash = st.ipv6Hash := by
    rw [sendCdn]
    split_ifs <;> rfl
  have throttled (st : State) : (unthrottle st s).ipv6Hash = st.ipv6Hash := by
    rw [unthrottle, throttleSession]
    split_ifs <;> rfl
  have cleared (st : State) :
      ((clearPpp st s).emit (.clusterSession s)).ipv6Hash = st.ipv6Hash := rfl
  simp only [finishShutdown]
  rw [cleared, unused, unused, told, throttled]

/-- Whether a shutdown takes routes and address back. -/
def Drops (st : State) (s : Nat) (termCause : Option TermCause) : Prop :=
  (st.session s).opened ≠ 0 ∧ (st.session s).ip ≠ 0 ∧ termCause ≠ some .callback

instance (st : State) (s : Nat) (termCause : Option TermCause) :
    Decidable (Drops st s termCause) := inferInstanceAs (Decidable (_ ∧ _ ∧ _))

/-- What a shutdown writes over the addresses. -/
def shutdownPatches (st : State) (s : Nat) (termCause : Option TermCause) : IpPatches :=
  if Drops st s termCause then
    ownPatches st s (lastLink st s) ++ leavePatches st s (st.session s).bundle
  else []

def shutdownPatches6 (st : State) (s : Nat) (termCause : Option TermCause) : Ipv6Patches :=
  if Drops st s termCause then
    (if lastLink st s then deleted6 st s else []) ++ leavePatches6 st s (st.session s).bundle
  else []

/-- What of a session decides what is written. -/
structure Addresses where
  ip : InAddr
  ipPoolIndex : Int
  route : List Route
  route6 : List Route6
  ipv6address : Nat

def Session.addresses (session : Session) : Addresses :=
  ⟨session.ip, session.ipPoolIndex, session.route, session.route6, session.ipv6address⟩

section Congruence

variable {st' : State} (config : st'.config = st.config)

theorem ownPatches_congr (same : (st'.session s).addresses = (st.session s).addresses)
    (delRoutes : Bool) : ownPatches st' s delRoutes = ownPatches st s delRoutes := by
  have ip : (st'.session s).ip = (st.session s).ip := congrArg Addresses.ip same
  have index : (st'.session s).ipPoolIndex = (st.session s).ipPoolIndex :=
    congrArg Addresses.ipPoolIndex same
  have route : (st'.session s).route = (st.session s).route := congrArg Addresses.route same
  simp only [ownPatches, routePatches, ip, index, route]

theorem heirPatches_congr (same : (st'.session s).addresses = (st.session s).addresses) :
    heirPatches st' s = heirPatches st s ∧ heirPatches6 st' s = heirPatches6 st s := by
  have ip : (st'.session s).ip = (st.session s).ip := congrArg Addresses.ip same
  have route : (st'.session s).route = (st.session s).route := congrArg Addresses.route same
  have route6 : (st'.session s).route6 = (st.session s).route6 := congrArg Addresses.route6 same
  have ipv6address : (st'.session s).ipv6address = (st.session s).ipv6address :=
    congrArg Addresses.ipv6address same
  simp only [heirPatches, heirPatches6, routePatches, ip, route, route6, ipv6address, and_self]

include config in
theorem deleted6_congr (route6 : (st'.session s).route6 = (st.session s).route6)
    (ipv6address : (st'.session s).ipv6address = (st.session s).ipv6address) :
    deleted6 st' s = deleted6 st s := by
  simp only [deleted6, route6Patches, route6, ipv6address, config]

theorem leavePatches_congr {b : Nat} (bundle : st'.bundle = st.bundle)
    (same : ∀ x, x ≠ s → (st'.session x).addresses = (st.session x).addresses) :
    leavePatches st' s b = leavePatches st s b ∧ leavePatches6 st' s b = leavePatches6 st s b := by
  have first : heir st' s b = heir st s b := by simp only [heir, bundle]
  simp only [leavePatches, leavePatches6, first]
  cases found : heir st s b with
  | none => exact ⟨rfl, rfl⟩
  | some x =>
      have other : x ≠ s := by
        simp only [heir] at found
        split at found
        · exact nomatch found
        · rename_i leaves
          rintro rfl
          exact leaves (.inr (.inr (.inl (Option.some.inj found))))
      exact heirPatches_congr (same x other)

end Congruence

theorem unroute_view {β : Type} (view : Session → β)
    (route : ∀ (session : Session) (route : List Route),
      view { session with route := route } = view session)
    (ip : ∀ (session : Session) (ip : InAddr), view { session with ip := ip } = view session)
    (delRoutes : Bool) (x : Nat) :
    view ((unroute st s delRoutes).session x) = view (st.session x) := by
  have session : (if delRoutes then routesetAll st s false (st.session s).route else st).session =
      st.session := by
    split
    · exact routesetAll_session ..
    · rfl
  simp only [unroute]
  generalize (if delRoutes then routesetAll st s false (st.session s).route else st) = deleted
    at session ⊢
  have cleared : view ((deleted.setSession s fun session =>
      { session with route := [] }).session x) = view (st.session x) := by
    rw [setSession_frame view (route _ _), session]
  generalize (deleted.setSession s fun session => { session with route := [] }) = cleared_
    at cleared ⊢
  split
  · rw [setSession_frame view (ip _ _)]
    split
    · rw [routeset_session, cleared]
    · exact cleared
  · simp only [freeIpAddress]
    split
    · exact cleared
    · rw [setPool_session, setSession_frame view (ip _ _), cacheIp_session,
        cleared]

theorem unroute_other (delRoutes : Bool) {x : Nat} (other : x ≠ s) :
    (unroute st s delRoutes).session x = st.session x := by
  have session : (if delRoutes then routesetAll st s false (st.session s).route else st).session =
      st.session := by
    split
    · exact routesetAll_session ..
    · rfl
  simp only [unroute, freeIpAddress]
  split_ifs
  all_goals
    simp only [setPool_session, setSession_other other, cacheIp_session,
      routeset_session, routesetAll_session]

theorem unroute6_other (delRoutes : Bool) {x : Nat} (other : x ≠ s) :
    (unroute6 st s delRoutes).session x = st.session x := by
  have routed (st : State) (ip prefixlen : Nat) :
      (route6set st s ip prefixlen false).session = st.session := by
    simp only [route6set]
    split_ifs <;> rfl
  have deleted (routes : List Route6) (st : State) :
      (routes.foldl (fun st route => route6set st s route.ipv6route route.ipv6prefixlen false)
        st).session = st.session := by
    induction routes generalizing st with
    | nil => rfl
    | cons route routes ih => rw [List.foldl_cons, ih, routed]
  have cleared (routes : List Route6) : (st.setSession s fun session =>
      { session with route6 := if routes = [] then session.route6 else [] }).session x =
        st.session x := setSession_other other _
  simp only [unroute6]
  split
  · split
    · rw [routed, deleted, cleared]
    · rw [deleted, cleared]
  · exact cleared _

theorem unroute6_bundle (delRoutes : Bool) : (unroute6 st s delRoutes).bundle = st.bundle :=
  congrArg Ledger.bundle (unroute6_ledger s delRoutes)

theorem dropRoutes_patched (some : s ≠ 0) (addressed : (st.session s).ip ≠ 0) (b : Nat)
    (delRoutes : Bool) {termCause : Option TermCause} (cause : termCause ≠ Option.some .callback) :
    Patched st (dropRoutes st s b delRoutes termCause)
      (ownPatches st s delRoutes ++ leavePatches st s b)
      ((if delRoutes then deleted6 st s else []) ++ leavePatches6 st s b) := by
  have unrouted := @unroute_patched st s some addressed delRoutes
  have same6 : deleted6 (unroute st s delRoutes) s = deleted6 st s :=
    deleted6_congr unrouted.config
      (unroute_view Session.route6 (fun _ _ => rfl) (fun _ _ => rfl) delRoutes s)
      (unroute_view Session.ipv6address (fun _ _ => rfl) (fun _ _ => rfl) delRoutes s)
  have unrouted6 := @unroute6_patched (unroute st s delRoutes) s some delRoutes
  rw [same6] at unrouted6
  have others : ∀ x, x ≠ s →
      ((unroute6 (unroute st s delRoutes) s delRoutes).session x).addresses =
        (st.session x).addresses := fun x other => by
    rw [unroute6_other delRoutes other, unroute_other delRoutes other]
  obtain ⟨leaves, leaves6⟩ := leavePatches_congr (b := b)
    ((unroute6_bundle delRoutes).trans (unroute_bundle s delRoutes)) others
  have left := @leaveBundle_patched (unroute6 (unroute st s delRoutes) s delRoutes) s b
  rw [leaves, leaves6] at left
  have all := (unrouted.trans unrouted6).trans left
  rw [List.append_nil, List.nil_append] at all
  rw [dropRoutes, if_pos ⟨addressed, cause⟩]
  exact all

/-- What a shutdown makes of the maps. -/
theorem sessionshutdown_patched (some : s ≠ 0) (reason : String) (cdnResult cdnError : Nat)
    (termCause : Option TermCause) :
    Patched st (sessionshutdown st s reason cdnResult cdnError termCause)
      (shutdownPatches st s termCause) (shutdownPatches6 st s termCause) := by
  by_cases closed : (st.session s).opened = 0
  · have kept : ¬ Drops st s termCause := fun drops => drops.1 closed
    rw [sessionshutdown, if_pos closed, shutdownPatches, shutdownPatches6, if_neg kept, if_neg kept]
    exact Patched.refl st
  have estate : (accounted st s reason termCause).estate = _ := accounted_estate s reason termCause
  have config : (accounted st s reason termCause).config = st.config :=
    congrArg Estate.config estate
  have session : (accounted st s reason termCause).session =
      Function.update st.session s { st.session s with die := dieAfter st s } :=
    congrArg Estate.session estate
  have bundle : (accounted st s reason termCause).bundle = st.bundle :=
    congrArg Estate.bundle estate
  have accounts : Patched st (accounted st s reason termCause) [] [] :=
    Patched.of_same (congrArg Estate.ipHash estate) (accounted_ipv6Hash s reason termCause) config
  have same : ∀ x, ((accounted st s reason termCause).session x).addresses =
      (st.session x).addresses := by
    intro x
    rw [session, Function.update_apply]
    split
    · rename_i here
      rw [here]
      rfl
    · rfl
  have ip : ((accounted st s reason termCause).session s).ip = (st.session s).ip :=
    congrArg Addresses.ip (same s)
  have finished (st : State) : Patched st (finishShutdown st s cdnResult cdnError) [] [] := by
    have ledger := @finishShutdown_ledger st s cdnResult cdnError
    exact Patched.of_same (congrArg Ledger.ipHash ledger)
      (finishShutdown_ipv6Hash s cdnResult cdnError)
      (congrArg (fun ledger : Ledger => ledger.books.config) ledger)
  rw [sessionshutdown_eq reason cdnResult cdnError termCause closed, shutdownPatches,
    shutdownPatches6]
  have ends {st' : State} {patches : IpPatches} {patches6 : Ipv6Patches}
      (patched : Patched st st' patches patches6) :
      Patched st (finishShutdown st' s cdnResult cdnError) patches patches6 := by
    have both := patched.trans (finished st')
    rw [List.append_nil, List.append_nil] at both
    exact both
  apply ends
  by_cases drops : Drops st s termCause
  · rw [if_pos drops, if_pos drops]
    have dropped := @dropRoutes_patched (accounted st s reason termCause) s some
      (by rw [ip]; exact drops.2.1) (st.session s).bundle (lastLink st s) termCause drops.2.2
    obtain ⟨leaves, leaves6⟩ := leavePatches_congr (b := (st.session s).bundle) bundle
      fun x _ => same x
    rw [ownPatches_congr (same s), deleted6_congr config (congrArg Addresses.route6 (same s))
      (congrArg Addresses.ipv6address (same s)), leaves, leaves6] at dropped
    exact accounts.trans dropped
  · rw [if_neg drops, if_neg drops, dropRoutes, if_neg]
    · exact accounts
    · rw [ip]
      exact fun both => drops ⟨closed, both⟩

/-- What a kill writes over the addresses. -/
def killPatches (st : State) (s : Nat) (termCause : Option TermCause) : IpPatches :=
  if (st.session s).next = 0 ∧ (st.session s).die = 0 then shutdownPatches st s termCause else []

def killPatches6 (st : State) (s : Nat) (termCause : Option TermCause) : Ipv6Patches :=
  if (st.session s).next = 0 ∧ (st.session s).die = 0 then shutdownPatches6 st s termCause else []

/-- The session that is linked to one that is killed has no address that could be taken. -/
def LinkUnaddressed (st : State) (s : Nat) : Prop :=
  (st.session s).forwardtosession ≠ 0 → (st.session (st.session s).forwardtosession).ip = 0

theorem releaseSlot_patched (s : Nat) : Patched st (releaseSlot st s) [] [] := by
  have estate := @releaseSlot_estate st s
  refine Patched.of_same (congrArg Estate.ipHash estate) ?_ (congrArg Estate.config estate)
  simp only [releaseSlot, radiusclear]
  split_ifs <;> rfl

theorem sessionclear_patched (s : Nat) : Patched st (sessionclear st s) [] [] :=
  Patched.of_same rfl rfl rfl

theorem shutLinked_patched (unaddressed : LinkUnaddressed st s) (reason : Option String) :
    Patched st (shutLinked st s reason) [] [] := by
  simp only [shutLinked]
  split
  · rename_i linked
    have shut := @sessionshutdown_patched st _ linked.1 (reason.getD "Murdered!") 3 0
      (some .adminReset)
    have kept : ¬ Drops st (st.session s).forwardtosession (some .adminReset) :=
      fun drops => drops.2.1 (unaddressed linked.1)
    rw [shutdownPatches, shutdownPatches6, if_neg kept, if_neg kept] at shut
    exact shut
  · exact Patched.refl st

theorem shutForKill_patched (some : s ≠ 0) (reason : Option String)
    (termCause : Option TermCause) :
    Patched st (shutForKill st s reason termCause)
      (if (st.session s).die = 0 then shutdownPatches st s termCause else [])
      (if (st.session s).die = 0 then shutdownPatches6 st s termCause else []) := by
  rw [shutForKill]
  split
  · exact sessionshutdown_patched some _ _ _ termCause
  · exact Patched.refl st

theorem LinkUnaddressed.afterShutdown (unaddressed : LinkUnaddressed st s)
    (reason : Option String) (termCause : Option TermCause) :
    LinkUnaddressed (releaseSlot (shutForKill st s reason termCause) s) s := by
  have session : (releaseSlot (shutForKill st s reason termCause) s).session =
      (shutForKill st s reason termCause).session := congrArg Estate.session (releaseSlot_estate s)
  have forwards : ((shutForKill st s reason termCause).session s).forwardtosession =
      (st.session s).forwardtosession := (shutForKill_kept s reason termCause).forwardtosession s
  rw [LinkUnaddressed, session, forwards]
  intro linked
  have none := unaddressed linked
  rw [shutForKill]
  split
  · obtain held | taken := sessionshutdown_holding st s (reason.getD "Murdered!")
      (if reason.isSome then 3 else 0) 0 termCause (st.session s).forwardtosession
    · exact (congrArg Holding.ip held).trans none
    · exact (congrArg Holding.ip taken :)
  · exact none

/-- What a kill makes of the maps. -/
theorem sessionkill_patched (some : s ≠ 0) (unaddressed : LinkUnaddressed st s)
    (reason : Option String) (termCause : Option TermCause) :
    Patched st (sessionkill st s reason termCause) (killPatches st s termCause)
      (killPatches6 st s termCause) := by
  simp only [sessionkill, killPatches, killPatches6]
  by_cases closed : (st.session s).opened = 0
  · have kept : ¬ Drops st s termCause := fun drops => drops.1 closed
    rw [if_pos closed, shutdownPatches, shutdownPatches6, if_neg kept, if_neg kept, ite_self,
      ite_self]
    exact Patched.refl st
  rw [if_neg closed]
  by_cases free : (st.session s).next = 0
  · have shut := @shutForKill_patched st s some reason termCause
    have linked := shutLinked_patched (unaddressed.afterShutdown reason termCause) reason
    have all := ((shut.trans (releaseSlot_patched s)).trans linked).trans (sessionclear_patched s)
    simp only [List.append_nil] at all
    rw [if_neg (not_not.mpr free)]
    simp only [free, true_and]
    exact all.emit _
  · rw [if_pos free, if_neg fun both => free both.1, if_neg fun both => free both.1]
    exact Patched.refl st

/-- An update without addresses and routes. -/
structure Cleared (new : Session) : Prop where
  ip : new.ip = 0
  route : new.route = []
  route6 : new.route6 = []
  ipv6address : new.ipv6address = 0

/-- Whether an update is taken and changes addresses. -/
def Readdresses (st : State) (s : Nat) (new : Session) : Prop :=
  new.ipPoolIndex < maxIpPool ∧ new.tunnel < maxTunnel ∧ addressChanges (st.session s) new

instance (st : State) (s : Nat) (new : Session) : Decidable (Readdresses st s new) :=
  inferInstanceAs (Decidable (_ ∧ _ ∧ _))

/-- What is written over the addresses when the old ones are removed. -/
def removedPatches (st : State) (s : Nat) : IpPatches :=
  let session := st.session s
  routePatches st s 0 ++
    if session.ip = 0 then []
    else if session.ipPoolIndex = -1 then
      if session.route.any (·.covers session.ip) then [] else [routePatch session.ip 0 0]
    else [addressPatch session.ip 0]

/-- What an update with a cleared session writes. -/
def loadPatches (st : State) (s : Nat) (new : Session) : IpPatches :=
  if Readdresses st s new then removedPatches st s else []

def loadPatches6 (st : State) (s : Nat) (new : Session) : Ipv6Patches :=
  if Readdresses st s new then deleted6 st s else []

theorem removeOld_patched (some : s ≠ 0) :
    Patched st (removeOld st s) (removedPatches st s) (deleted6 st s) := by
  have unrouted := routesetAll_patched some false (st.session s).route st
  simp only [removeOld, removedPatches]
  generalize routesetAll st s false (st.session s).route = unrouted_ at unrouted ⊢
  have unmapped : Patched st
      (if (st.session s).ip = 0 then unrouted_
      else if (st.session s).ipPoolIndex = -1 then
        if (st.session s).route.any (·.covers (st.session s).ip) then unrouted_
        else routeset unrouted_ s (st.session s).ip 0 false
      else unrouted_.cacheIp (st.session s).ip 0)
      (routePatches st s 0 ++
        if (st.session s).ip = 0 then []
        else if (st.session s).ipPoolIndex = -1 then
          if (st.session s).route.any (·.covers (st.session s).ip) then []
          else [routePatch (st.session s).ip 0 0]
        else [addressPatch (st.session s).ip 0]) [] := by
    split_ifs
    · exact unrouted.trans (Patched.refl _)
    · exact unrouted.trans (Patched.refl _)
    · exact unrouted.trans (routeset_patched some _ 0 false)
    · exact unrouted.trans (cacheIp_patched _ 0)
  generalize (if (st.session s).ip = 0 then unrouted_
    else if (st.session s).ipPoolIndex = -1 then
      if (st.session s).route.any (·.covers (st.session s).ip) then unrouted_
      else routeset unrouted_ s (st.session s).ip 0 false
    else unrouted_.cacheIp (st.session s).ip 0) = unmapped_ at unmapped ⊢
  have deleted := route6setAll_patched some false ((st.session s).route6.takeWhile
    fun route => hasIpv6 route.ipv6route && route.ipv6prefixlen ≠ 0) unmapped_
  have prefixes : ∀ ip prefixlen, route6Patches unmapped_ ip prefixlen 0 =
      route6Patches st ip prefixlen 0 := by
    intro ip prefixlen
    rw [route6Patches, unmapped.config, route6Patches]
  simp only [deleted6]
  generalize ((st.session s).route6.takeWhile fun route => hasIpv6 route.ipv6route &&
    route.ipv6prefixlen ≠ 0) = routes at deleted ⊢
  simp only [Bool.false_eq_true, if_false, prefixes] at deleted
  generalize routes.foldl (fun st route =>
    route6set st s route.ipv6route route.ipv6prefixlen false) unmapped_ = deleted_ at deleted ⊢
  have both := unmapped.trans deleted
  rw [List.append_nil] at both
  split
  · have address := @route6set_patched deleted_ s some (st.session s).ipv6address 128 false
    simp only [route6Patches, both.config] at address
    have all := both.trans address
    rw [List.append_nil] at all
    exact all
  · rw [List.append_nil]
    exact both

theorem addNew_cleared {new : Session} (cleared : Cleared new) : addNew st s new = st := by
  simp only [addNew, cleared.route]
  rw [if_pos cleared.ip]
  rfl

theorem addNew6_cleared {new : Session} (cleared : Cleared new) : addNew6 st s new = st := by
  have none : hasIpv6 0 = false := rfl
  simp only [addNew6, cleared.route6, cleared.ipv6address, none, List.takeWhile_nil,
    List.foldl_nil, Bool.false_eq_true, false_and, if_false, ite_self]

theorem loadSession_patched (some : s ≠ 0) {new : Session} (cleared : Cleared new) :
    Patched st (loadSession st s new).1 (loadPatches st s new) (loadPatches6 st s new) := by
  have swapped (st : State) (old new : Nat) : Patched st (swapFilter st old new) [] [] := by
    simp only [swapFilter, useFilter, unuseFilter]
    split_ifs <;> exact Patched.of_same rfl rfl rfl
  have fixed (st : State) : Patched st (fixAddressPool st s) [] [] := by
    simp only [fixAddressPool]
    split_ifs <;> exact Patched.of_same rfl rfl rfl
  by_cases refused : (maxIpPool : Int) ≤ new.ipPoolIndex ∨ maxTunnel ≤ new.tunnel
  · have kept : ¬ Readdresses st s new := by
      rintro ⟨index, tunnel, _⟩
      rcases refused with big | big
      · exact absurd index (not_lt.mpr big)
      · exact absurd tunnel (not_lt.mpr big)
    rw [loadSession, if_pos refused, loadPatches, loadPatches6, if_neg kept, if_neg kept]
    exact Patched.refl st
  have removed : Patched st (if addressChanges (st.session s) new then removeOld st s else st)
      (loadPatches st s new) (loadPatches6 st s new) := by
    have taken : Readdresses st s new ↔ addressChanges (st.session s) new = true := by
      rw [not_or, not_le, not_le] at refused
      exact ⟨fun readdresses => readdresses.2.2, fun changes => ⟨refused.1, refused.2, changes⟩⟩
    rw [loadPatches, loadPatches6]
    by_cases changes : addressChanges (st.session s) new = true
    · rw [if_pos changes, if_pos (taken.mpr changes), if_pos (taken.mpr changes)]
      exact removeOld_patched some
    · rw [if_neg changes, if_neg (mt taken.mp changes), if_neg (mt taken.mp changes)]
      exact Patched.refl st
  simp only [loadSession, addNew_cleared cleared, addNew6_cleared cleared]
  rw [if_neg refused]
  generalize (if addressChanges (st.session s) new then removeOld st s else st) = routed
    at removed ⊢
  have filtered := (removed.trans (swapped routed (st.session s).filterIn
    (checkFilter routed new.filterIn))).trans (swapped _ (st.session s).filterOut
      (checkFilter routed new.filterOut))
  simp only [List.append_nil] at filtered
  generalize swapFilter (swapFilter routed (st.session s).filterIn (checkFilter routed
    new.filterIn)) (st.session s).filterOut (checkFilter routed new.filterOut) = swapped_
    at filtered ⊢
  have counted : Patched st (if new.tunnel ≠ 0 ∧ swapped_.highestSessionid < s then
      { swapped_ with highestSessionid := s } else swapped_) (loadPatches st s new)
      (loadPatches6 st s new) := by
    split
    · exact filtered.andThen rfl rfl rfl
    · exact filtered
  generalize (if new.tunnel ≠ 0 ∧ swapped_.highestSessionid < s then
    { swapped_ with highestSessionid := s } else swapped_) = counted_ at counted ⊢
  have copied (session : Session) :
      Patched st (counted_.setSession s fun _ => session) (loadPatches st s new)
        (loadPatches6 st s new) := counted.andThen rfl rfl rfl
  have settled (session : Session) :
      Patched st (fixAddressPool (counted_.setSession s fun _ => session) s)
        (loadPatches st s new) (loadPatches6 st s new) := by
    have all := (copied session).trans (fixed _)
    simp only [List.append_nil] at all
    exact all
  split
  · exact settled _
  · exact copied _

/-- An address that is looked up, and the function that does. -/
inductive Target where
  | sessionbyip (ip : InAddr)
  | sessionbyipv6 (ip : Nat)
  | sessionbyipv6new (ip : Nat)

/-- The session that an address resolves to, 0 if there is none. -/
def State.resolve (st : State) : Target → Nat
  | .sessionbyip ip => Server.sessionbyip st ip
  | .sessionbyipv6 ip => Server.sessionbyipv6 st ip
  | .sessionbyipv6new ip => Server.sessionbyipv6new st ip

/-- The last patch of an IPv4 address, if there is one, maps it to the session. -/
def Spares (patches : IpPatches) (x : Nat) (ip : InAddr) : Prop :=
  Patch.last patches ip = none ∨ Patch.last patches ip = some x

/-- A prefix of an IPv6 address reads as a session, or 0, after it was patched. -/
def Reads (st : State) (patches : Ipv6Patches) (ip count s : Nat) : Prop :=
  Patch.last patches (nibbles ip count) = some s ∨
    Patch.last patches (nibbles ip count) = none ∧
      PrefixTree.cellAt 0 st.ipv6Hash (nibbles ip count) = s

/-- A prefix of an IPv6 address is left to the session, and no shorter one to another. -/
def Spares6 (st : State) (patches : Ipv6Patches) (x ip : Nat) : Prop :=
  ∃ count, count ≤ 32 ∧ Reads st patches ip count x ∧
    ∀ shorter, shorter < count → Reads st patches ip shorter 0

/-- The patches leave the cells of an address to the session. -/
def LeavesTo (st : State) (patches : IpPatches) (patches6 : Ipv6Patches) (x : Nat) :
    Target → Prop
  | .sessionbyip ip => Spares patches x ip
  | .sessionbyipv6 ip =>
      if embedsIpv4 st ip then Spares patches x (UInt32.ofNat (ip / 2 ^ 32 % 2 ^ 32))
      else Spares6 st patches6 x ip
  | .sessionbyipv6new ip => Spares6 st patches6 x ip

theorem openId_eq_iff {x cell : Nat} (real : x ≠ 0) (fits : x < maxSession)
    (opened : (st.session x).opened ≠ 0) : st.openId cell = x ↔ cell = x := by
  rw [State.openId]
  constructor
  · intro same
    split at same
    · exact same
    · exact absurd same.symm real
  · rintro rfl
    exact if_pos ⟨Nat.pos_of_ne_zero real, fits, opened⟩

theorem openId_named {x cell : Nat} (real : x ≠ 0) (named : st.openId cell = x) :
    cell = x ∧ x < maxSession ∧ (st.session x).opened ≠ 0 := by
  rw [State.openId] at named
  split at named
  · rename_i open_
    rw [← named]
    exact ⟨rfl, open_.2⟩
  · exact absurd named.symm real

namespace Patched

variable {st st' : State} {patches : IpPatches} {patches6 : Ipv6Patches} {x : Nat}

theorem cell_iff (patched : Patched st st' patches patches6) {ip : InAddr}
    (named : lookupIpmap st.ipHash ip = x) :
    lookupIpmap st'.ipHash ip = x ↔ Spares patches x ip := by
  rw [patched.cells, Patch.applyAll_eq_iff, Spares]
  exact ⟨fun either => either.symm.imp_left And.left,
    fun either => either.symm.imp_right fun none => ⟨none, named⟩⟩

theorem lookup6_iff (patched : Patched st st' patches patches6) (real : x ≠ 0) (ip : Nat) :
    lookupIpv6map st'.ipv6Hash ip = x ↔ Spares6 st patches6 x ip := by
  have reads : ∀ count v, count ≤ 32 →
      (PrefixTree.cellAt 0 st'.ipv6Hash ((nibbles ip 32).take count) = v ↔
        Reads st patches6 ip count v) := by
    intro count v within
    rw [nibbles_take ip within, patched.nodes, Patch.applyAll_eq_iff, Reads]
  rw [lookupIpv6map, PrefixTree.first_eq, PrefixTree.firstCell_eq_iff real, nibbles_length, Spares6]
  constructor
  · rintro ⟨count, within, found, before⟩
    exact ⟨count, within, (reads count x within).mp found, fun shorter below =>
      (reads shorter 0 (by omega)).mp (before shorter below)⟩
  · rintro ⟨count, within, found, before⟩
    exact ⟨count, within, (reads count x within).mpr found, fun shorter below =>
      (reads shorter 0 (by omega)).mpr (before shorter below)⟩

/-- An address resolves as before exactly if its cells are left to the session. -/
theorem resolve_iff (patched : Patched st st' patches patches6) (real : x ≠ 0)
    (opened : (st'.session x).opened = (st.session x).opened) {target : Target}
    (resolves : st.resolve target = x) :
    st'.resolve target = x ↔ LeavesTo st patches patches6 x target := by
  have embeds : ∀ ip, embedsIpv4 st' ip = embedsIpv4 st ip := by
    intro ip
    rw [embedsIpv4, patched.config, embedsIpv4]
  have named {cell : Nat} (named : st.openId cell = x) :
      cell = x ∧ ∀ cell', st'.openId cell' = x ↔ cell' = x := by
    obtain ⟨same, fits, open_⟩ := openId_named real named
    exact ⟨same, fun cell' => openId_eq_iff real fits (by rw [opened]; exact open_)⟩
  cases target with
  | sessionbyip ip =>
      obtain ⟨cell, after⟩ := named resolves
      exact (after _).trans (patched.cell_iff cell)
  | sessionbyipv6 ip =>
      simp only [State.resolve, Server.sessionbyipv6, LeavesTo, embeds] at resolves ⊢
      split at resolves
      · rename_i embedded
        obtain ⟨cell, after⟩ := named resolves
        rw [if_pos embedded, if_pos embedded, after]
        exact patched.cell_iff cell
      · rename_i embedded
        obtain ⟨cell, after⟩ := named resolves
        rw [if_neg embedded, if_neg embedded, after]
        exact patched.lookup6_iff real ip
  | sessionbyipv6new ip =>
      obtain ⟨cell, after⟩ := named resolves
      exact (after _).trans (patched.lookup6_iff real ip)

end Patched

theorem sessionkill_otherOpened {x : Nat} (real : x ≠ 0) (other : x ≠ s) (reason : Option String)
    (termCause : Option TermCause) :
    ((sessionkill st s reason termCause).session x).opened = (st.session x).opened := by
  obtain ⟨same, _⟩ | ⟨_, _, st', kept, killed⟩ := sessionkill_cases st s reason termCause
  · rw [same]
  · rw [killed, emit_session, ← kept.opened]
    simp only [sessionclear]
    rw [setSession_other real, setSession_other other, setLocal_session,
      setSession_other other]

theorem loadSession_opened {x : Nat} (other : x ≠ s) (new : Session) :
    ((loadSession st s new).1.session x).opened = (st.session x).opened := by
  obtain ⟨_, refused⟩ | ⟨_, session, _⟩ := loadSession_spec st s new
  · rw [refused]
  · rw [session, Function.update_of_ne other]

/-- **Teardown of another session.** An address that resolves to a session still does after
another one was shut down, killed or cleared by an update exactly if what this writes
leaves the cells of the address to that session. -/
theorem teardown_resolves_iff {x : Nat} (some : s ≠ 0) (real : x ≠ 0) (other : x ≠ s)
    {target : Target} (resolves : st.resolve target = x) :
    (∀ (reason : String) (cdnResult cdnError : Nat) (termCause : Option TermCause),
      (sessionshutdown st s reason cdnResult cdnError termCause).resolve target = x ↔
        LeavesTo st (shutdownPatches st s termCause) (shutdownPatches6 st s termCause) x
          target) ∧
    (LinkUnaddressed st s → ∀ (reason : Option String) (termCause : Option TermCause),
      (sessionkill st s reason termCause).resolve target = x ↔
        LeavesTo st (killPatches st s termCause) (killPatches6 st s termCause) x target) ∧
    ∀ new : Session, Cleared new →
      ((loadSession st s new).1.resolve target = x ↔
        LeavesTo st (loadPatches st s new) (loadPatches6 st s new) x target) := by
  refine ⟨fun reason cdnResult cdnError termCause => ?_,
    fun unaddressed reason termCause => ?_, fun new cleared => ?_⟩
  · exact (sessionshutdown_patched some reason cdnResult cdnError termCause).resolve_iff real
      ((sessionshutdown_kept ..).opened x) resolves
  · exact (sessionkill_patched some unaddressed reason termCause).resolve_iff real
      (sessionkill_otherOpened real other reason termCause) resolves
  · exact (loadSession_patched some cleared).resolve_iff real (loadSession_opened other new)
      resolves

/-- What opens sessions, gives them a user, addresses and routes, and tears them down. -/
inductive RouteAction where
  | openSession (s t : Nat)
  | login (s : Nat) (user : List UInt8)
  | accept (s routes routes6 : Nat) (opentunnelReq : Bool) (item : RadAttribute)
  | setup (s t : Nat)
  | shutdown (s : Nat) (reason : String) (cdnResult cdnError : Nat)
      (termCause : Option TermCause)
  | kill (s : Nat) (reason : Option String) (termCause : Option TermCause)
  | load (s : Nat) (new : Session)
  | tick (time timeNow : Nat)

/-- The tables after an action. -/
def RouteAction.perform (st : State) : RouteAction → State
  | .openSession s t => Server.openSession st s t
  | .login s user => st.setSession s fun session => { session with user := user }
  | .accept s routes routes6 opentunnelReq item =>
      (applyAttribute s ⟨st, routes, routes6, opentunnelReq⟩ item).st
  | .setup s t => sessionsetup st s t
  | .shutdown s reason cdnResult cdnError termCause =>
      sessionshutdown st s reason cdnResult cdnError termCause
  | .kill s reason termCause => sessionkill st s reason termCause
  | .load s new => (loadSession st s new).1
  | .tick time timeNow => { st with time := time, timeNow := timeNow }

/-- Session 0 heads the list of free ones, and an entry that is opened was not in use. -/
def RouteAction.Called (st : State) : RouteAction → Prop
  | .openSession s _ => s ≠ 0 ∧ s < maxSession ∧ (st.session s).opened = 0
  | .login s _ | .accept s .. | .setup s _ | .shutdown s .. | .kill s .. | .load s _ =>
      s ≠ 0 ∧ s < maxSession
  | .tick .. => True

/-- A server from its start on. -/
def routeSystem : TransitionSystem State RouteAction where
  initial st := ∃ config pool ipPoolSize time timeNow,
    st = State.start config pool ipPoolSize time timeNow
  step st action next := next = action.perform st ∧ action.Called st

/-- Two users: the address of the second is in a subnet that is routed to the first. -/
def nestedActions : List RouteAction :=
  [.openSession 5 1, .login 5 [97], .accept 5 0 0 false (.framedIp 0x0A000101),
    .accept 5 0 0 false (.framedRoute 0x0A000004 30), .setup 5 1,
    .openSession 6 1, .login 6 [98], .accept 6 0 0 false (.framedIp 0x0A000005), .setup 6 1]

def nestedState : State :=
  nestedActions.foldl RouteAction.perform (State.start .zero (fun _ => .zero) 0 0 1)

instance RouteAction.decidableCalled (st : State) :
    (action : RouteAction) → Decidable (action.Called st)
  | .openSession .. => inferInstanceAs (Decidable (_ ∧ _ ∧ _))
  | .login .. | .accept .. | .setup .. | .shutdown .. | .kill .. | .load .. =>
      inferInstanceAs (Decidable (_ ∧ _))
  | .tick .. => inferInstanceAs (Decidable True)

def RouteAction.AllCalled : State → List RouteAction → Prop
  | _, [] => True
  | st, action :: actions => action.Called st ∧ AllCalled (action.perform st) actions

instance RouteAction.decidableAllCalled :
    (st : State) → (actions : List RouteAction) → Decidable (RouteAction.AllCalled st actions)
  | _, [] => inferInstanceAs (Decidable True)
  | st, action :: actions =>
      have := RouteAction.decidableAllCalled (action.perform st) actions
      inferInstanceAs (Decidable (action.Called st ∧ AllCalled (action.perform st) actions))

theorem routes_reachable (reached : routeSystem.Reachable st) (actions : List RouteAction)
    (called : RouteAction.AllCalled st actions) :
    routeSystem.Reachable (actions.foldl RouteAction.perform st) := by
  induction actions generalizing st with
  | nil => exact reached
  | cons action actions ih =>
      exact ih (.step action reached trivial ⟨rfl, called.1⟩) called.2

theorem nestedState_reachable : routeSystem.Reachable nestedState :=
  routes_reachable (.initial ⟨_, _, _, _, _, rfl⟩) nestedActions (by decide)

/-- The other addresses of the subnet are left to the first user. -/
theorem teardown_resolves_iff_nested :
    (sessionshutdown nestedState 6 "" 0 0 none).resolve (.sessionbyip 0x0A000006) = 5 ↔
      LeavesTo nestedState (shutdownPatches nestedState 6 none)
        (shutdownPatches6 nestedState 6 none) 5 (.sessionbyip 0x0A000006) :=
  (teardown_resolves_iff (by decide) (by decide) (by decide) (by decide)).1 "" 0 0 none

/-- Two sessions that share no bundle. -/
def OutsideBundle (st : State) (s x : Nat) : Prop :=
  x ≠ s ∧ ((st.session s).bundle = 0 ∨ (st.session x).bundle ≠ (st.session s).bundle)

/-- The subnet of the first user is deleted with the address of the second in it. -/
theorem teardown_unroutes :
    ¬ ∀ st, routeSystem.Reachable st → ∀ s x target, s ≠ 0 → (st.session x).Live →
      OutsideBundle st s x → st.resolve target = x →
        (sessionshutdown st s "" 0 0 none).resolve target = x := by
  intro keeps
  have resolves : nestedState.resolve (.sessionbyip 0x0A000005) = 6 := by decide
  have live : (nestedState.session 6).Live := by decide
  have apart : OutsideBundle nestedState 5 6 := ⟨by decide, .inl (by decide)⟩
  have after : (sessionshutdown nestedState 5 "" 0 0 none).resolve
      (.sessionbyip 0x0A000005) = 0 := by decide
  have kept := keeps nestedState nestedState_reachable 5 6 (.sessionbyip 0x0A000005) (by decide)
    live apart resolves
  rw [after] at kept
  exact absurd kept (by decide)

end L2tpns.Server
