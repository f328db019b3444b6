import L2tpns.Server.Shutdown

/-! # What a shutdown leaves alone

The books are what accounting reads and writes. Taking back the routes and the address
and leaving the bundle do not touch them (`L2tpns.Server.dropRoutes_books`). The
ledger adds the addresses, the routes and the bundles; telling the peer and clearing
the PPP state do not touch it either (`L2tpns.Server.finishShutdown_ledger`).
-/

namespace L2tpns.Server

open Function State

/-- Requests to the RADIUS servers. -/
def Effect.isRequest : Effect → Bool
  | radius .. => true
  | _ => false

/-- The fields of a session that decide how it is shut down and killed. -/
structure Standing where
  opened : Nat
  die : Nat
  next : Nat
  tunnel : Nat
  far : Nat
  filterIn : Nat
  filterOut : Nat
  walledGarden : Bool
  forwardtosession : Nat

def Session.standing (session : Session) : Standing :=
  ⟨session.opened, session.die, session.next, session.tunnel, session.far, session.filterIn,
    session.filterOut, session.walledGarden, session.forwardtosession⟩

/-- The addresses of a session and its place in a bundle. -/
structure Holding where
  ip : InAddr
  ipPoolIndex : Int
  route : List Route
  bundle : Nat
  user : List UInt8

def Session.holding (session : Session) : Holding :=
  ⟨session.ip, session.ipPoolIndex, session.route, session.bundle, session.user⟩

/-- The part of the tables that accounting uses, and the sizes of the tables. -/
structure Books where
  config : Config
  time : Nat
  timeNow : Nat
  tunnel : Nat → Tunnel
  highestTunnelid : Nat
  highestSessionid : Nat
  radius : Nat → Radius
  slot : Nat → Nat
  nextRadiusId : Nat
  shutAcct : List (Nat × Session)
  requests : List Effect
  standing : Nat → Standing

def State.books (st : State) : Books where
  config := st.config
  time := st.time
  timeNow := st.timeNow
  tunnel := st.tunnel
  highestTunnelid := st.highestTunnelid
  highestSessionid := st.highestSessionid
  radius := st.radius
  slot := fun s => (st.sessLocal s).radius
  nextRadiusId := st.nextRadiusId
  shutAcct := st.shutAcct
  requests := st.sent.filter Effect.isRequest
  standing := fun s => (st.session s).standing

/-- The books, and the tables of addresses and bundles. -/
structure Ledger where
  books : Books
  ipAddressPool : Nat → IpPool
  ipPoolSize : Nat
  ipHash : IpHash
  bundle : Nat → Bundle
  highestBundleid : Nat
  holding : Nat → Holding

def State.ledger (st : State) : Ledger where
  books := st.books
  ipAddressPool := st.ipAddressPool
  ipPoolSize := st.ipPoolSize
  ipHash := st.ipHash
  bundle := st.bundle
  highestBundleid := st.highestBundleid
  holding := fun s => (st.session s).holding

variable {st : State} {s : Nat}

theorem State.emit_books (effect : Effect) (other : effect.isRequest = false) :
    (st.emit effect).books = st.books := by
  have requests : (st.emit effect).sent.filter Effect.isRequest =
      st.sent.filter Effect.isRequest := by
    rw [State.emit, List.filter_append, List.filter_cons_of_neg (by rw [other]; exact nofun),
      List.filter_nil, List.append_nil]
  rw [State.books, requests]
  rfl

theorem State.setSession_books {change : Session → Session}
    (keeps : (change (st.session s)).standing = (st.session s).standing) :
    (st.setSession s change).books = st.books := by
  have standing : (fun s' => ((st.setSession s change).session s').standing) =
      fun s' => (st.session s').standing :=
    funext (setSession_frame Session.standing keeps)
  rw [State.books, standing]
  rfl

theorem State.setLocal_books {change : SessLocal → SessLocal}
    (keeps : (change (st.sessLocal s)).radius = (st.sessLocal s).radius) :
    (st.setLocal s change).books = st.books := by
  have slot : (fun s' => ((st.setLocal s change).sessLocal s').radius) =
      fun s' => (st.sessLocal s').radius :=
    funext (setLocal_frame SessLocal.radius keeps)
  rw [State.books, slot]
  rfl

theorem State.setPool_books {i : Nat} (change : IpPool → IpPool) :
    (st.setPool i change).books = st.books := rfl

theorem State.cacheIp_books (ip : InAddr) (i : Int) : (st.cacheIp ip i).books = st.books := rfl

theorem State.emit_ledger (effect : Effect) (other : effect.isRequest = false) :
    (st.emit effect).ledger = st.ledger := by
  rw [State.ledger, emit_books effect other]
  rfl

theorem State.setSession_ledger {change : Session → Session}
    (standing : (change (st.session s)).standing = (st.session s).standing)
    (holding : (change (st.session s)).holding = (st.session s).holding) :
    (st.setSession s change).ledger = st.ledger := by
  have held : (fun s' => ((st.setSession s change).session s').holding) =
      fun s' => (st.session s').holding :=
    funext (setSession_frame Session.holding holding)
  rw [State.ledger, setSession_books standing, held]
  rfl

theorem State.setLocal_ledger {change : SessLocal → SessLocal}
    (keeps : (change (st.sessLocal s)).radius = (st.sessLocal s).radius) :
    (st.setLocal s change).ledger = st.ledger := by
  rw [State.ledger, setLocal_books keeps]
  rfl

theorem route6set_ledger (s ip prefixlen : Nat) (add : Bool) :
    (route6set st s ip prefixlen add).ledger = st.ledger := by
  have routed : (st.emit (.route6 s ip prefixlen add)).ledger = st.ledger :=
    emit_ledger _ rfl
  simp only [route6set]
  by_cases configured : st.config.ipv6Prefix.headD 0 = 0
  · rw [if_pos configured]
  · rw [if_neg configured]
    split
    · exact routed
    · exact routed

theorem route6setAll_ledger (s : Nat) (add : Bool) (routes : List Route6) (st : State) :
    (routes.foldl (fun st route => route6set st s route.ipv6route route.ipv6prefixlen add)
      st).ledger = st.ledger := by
  induction routes generalizing st with
  | nil => rfl
  | cons route routes ih => rw [List.foldl_cons, ih, route6set_ledger]

theorem unroute6_ledger (s : Nat) (delRoutes : Bool) :
    (unroute6 st s delRoutes).ledger = st.ledger := by
  cases delRoutes with
  | false =>
      simp only [unroute6, Bool.false_eq_true, ↓reduceIte]
      exact setSession_ledger rfl rfl
  | true =>
      simp only [unroute6, ↓reduceIte]
      by_cases addressed : hasIpv6 (st.session s).ipv6address
      · rw [if_pos addressed, route6set_ledger, route6setAll_ledger]
        exact setSession_ledger rfl rfl
      · rw [if_neg addressed, route6setAll_ledger]
        exact setSession_ledger rfl rfl

theorem throttleSession_ledger (s : Nat) (rateIn rateOut : Int) :
    (throttleSession st s rateIn rateOut).ledger = st.ledger := by
  rw [throttleSession]
  split
  · rfl
  · rw [emit_ledger _ rfl]
    exact setSession_ledger rfl rfl

theorem unthrottle_ledger (s : Nat) : (unthrottle st s).ledger = st.ledger := by
  rw [unthrottle]
  split
  · exact throttleSession_ledger ..
  · rfl

theorem sendCdn_ledger (s cdnResult cdnError : Nat) :
    (sendCdn st s cdnResult cdnError).ledger = st.ledger := by
  rw [sendCdn]
  split_ifs
  · rfl
  · exact emit_ledger _ rfl
  · exact emit_ledger _ rfl

theorem unuseFilter_ledger (filter : Nat) : (unuseFilter st filter).ledger = st.ledger := by
  rw [unuseFilter]
  split <;> rfl

theorem clearPpp_ledger (s : Nat) : (clearPpp st s).ledger = st.ledger := by
  rw [clearPpp, setLocal_ledger (by rfl)]
  exact setSession_ledger rfl rfl

/-- The end of a shutdown leaves the ledger alone. -/
theorem finishShutdown_ledger (s cdnResult cdnError : Nat) :
    (finishShutdown st s cdnResult cdnError).ledger = st.ledger := by
  simp only [finishShutdown]
  rw [emit_ledger _ rfl, clearPpp_ledger, unuseFilter_ledger, unuseFilter_ledger,
    sendCdn_ledger, unthrottle_ledger]

/-- What is not about RADIUS. -/
structure Estate where
  config : Config
  time : Nat
  timeNow : Nat
  session : Nat → Session
  tunnel : Nat → Tunnel
  highestTunnelid : Nat
  bundle : Nat → Bundle
  ipAddressPool : Nat → IpPool
  ipPoolSize : Nat
  ipHash : IpHash
  highestSessionid : Nat
  highestBundleid : Nat
  filterUsed : Nat → Int

def State.estate (st : State) : Estate :=
  ⟨st.config, st.time, st.timeNow, st.session, st.tunnel, st.highestTunnelid, st.bundle,
    st.ipAddressPool, st.ipPoolSize, st.ipHash, st.highestSessionid, st.highestBundleid,
    st.filterUsed⟩

theorem radiusclear_estate (r s : Nat) : (radiusclear st r s).estate = st.estate := by
  simp only [radiusclear]
  split <;> rfl

theorem releaseSlot_estate (s : Nat) : (releaseSlot st s).estate = st.estate := by
  rw [releaseSlot]
  split
  · rfl
  · exact radiusclear_estate ..

theorem radiusnew_estate (st : State) (s : Nat) : (radiusnew st s).1.estate = st.estate := by
  simp only [radiusnew]
  split_ifs <;> rfl

theorem radiussendAccounting_estate (st : State) (r : Nat) (request : RadiusState) :
    (radiussendAccounting st r request).estate = st.estate := by
  simp only [radiussendAccounting, radiussendOr]
  split_ifs
  all_goals first
    | rfl
    | exact radiusclear_estate ..

theorem startStop_estate (s : Nat) (reason : String) (termCause : Option TermCause) :
    (startStop st s reason termCause).estate = st.estate := by
  simp only [startStop]
  split_ifs
  · exact radiusnew_estate st s
  · exact radiusnew_estate st s
  · exact (radiussendAccounting_estate ..).trans (radiusnew_estate st s)

theorem saveCounters_estate (s : Nat) : (saveCounters st s).estate = st.estate := by
  rw [saveCounters]
  split <;> rfl

theorem accountOnce_estate (s : Nat) (walledGarden : Bool) (reason : String)
    (termCause : Option TermCause) :
    (accountOnce st s walledGarden reason termCause).estate = st.estate := by
  rw [accountOnce]
  split
  · exact (saveCounters_estate s).trans (startStop_estate s reason termCause)
  · rfl

theorem routeset_books (s : Nat) (ip : InAddr) (prefixlen : Nat) (add : Bool) :
    (routeset st s ip prefixlen add).books = st.books := by
  rw [routeset]
  split
  · exact emit_books _ rfl
  · change (st.emit (.route _ _ add)).books = st.books
    exact emit_books _ rfl

theorem routesetAll_books (s : Nat) (add : Bool) (routes : List Route) (st : State) :
    (routesetAll st s add routes).books = st.books := by
  induction routes generalizing st with
  | nil => rfl
  | cons route routes ih => rw [routesetAll, ih, routeset_books]

theorem freeIpAddress_books (s : Nat) : (freeIpAddress st s).books = st.books := by
  simp only [freeIpAddress]
  split
  · rfl
  · rw [setPool_books, setSession_books (by rfl), cacheIp_books]

theorem unroute_books (s : Nat) (delRoutes : Bool) :
    (unroute st s delRoutes).books = st.books := by
  have deleted : (if delRoutes then routesetAll st s false (st.session s).route else st).books =
      st.books := by
    split
    · exact routesetAll_books ..
    · rfl
  simp only [unroute]
  by_cases static : (st.session s).ipPoolIndex = -1
  · rw [if_pos static, setSession_books (by rfl)]
    split
    · rw [routeset_books, setSession_books (by rfl), deleted]
    · rw [setSession_books (by rfl), deleted]
  · rw [if_neg static, freeIpAddress_books, setSession_books (by rfl), deleted]

theorem routeset_bundle (s : Nat) (ip : InAddr) (prefixlen : Nat) (add : Bool) :
    (routeset st s ip prefixlen add).bundle = st.bundle := by
  rw [routeset]
  split <;> rfl

theorem routesetAll_bundle (s : Nat) (add : Bool) (routes : List Route) (st : State) :
    (routesetAll st s add routes).bundle = st.bundle := by
  induction routes generalizing st with
  | nil => rfl
  | cons route routes ih => rw [routesetAll, ih, routeset_bundle]

theorem unroute_bundle (s : Nat) (delRoutes : Bool) :
    (unroute st s delRoutes).bundle = st.bundle := by
  simp only [unroute, freeIpAddress]
  split_ifs <;> first
    | rfl
    | exact routesetAll_bundle ..
    | exact (routeset_bundle ..).trans rfl
    | exact (routeset_bundle ..).trans (routesetAll_bundle ..)

theorem takeOver_books (s : Nat) : (takeOver st s).books = st.books := by
  have cached (routes : List Route6) (st : State) :
      (routes.foldl (fun st route =>
        st.cacheIp6 route.ipv6route route.ipv6prefixlen s) st).books = st.books := by
    induction routes generalizing st with
    | nil => rfl
    | cons route routes ih =>
        rw [List.foldl_cons, ih]
        rfl
  simp only [takeOver]
  split
  · exact (cached ..).trans rfl
  · exact (cached ..).trans rfl

theorem leaveBundle_books (s b : Nat) : (leaveBundle st s b).books = st.books := by
  simp only [leaveBundle]
  split_ifs
  · rfl
  all_goals
    rw [emit_books _ rfl]
    try rw [takeOver_books]
    rfl

theorem freeIpAddress_ip (s : Nat) : ((freeIpAddress st s).session s).ip = 0 := by
  simp only [freeIpAddress]
  split
  · assumption
  · rw [setPool_session, setSession_same]

theorem unroute_ip (s : Nat) (delRoutes : Bool) :
    ((unroute st s delRoutes).session s).ip = 0 := by
  simp only [unroute]
  split
  · rw [setSession_same]
  · exact freeIpAddress_ip s

theorem takeOver_session (s : Nat) : (takeOver st s).session = st.session := by
  have cached (routes : List Route6) (st : State) :
      (routes.foldl (fun st route =>
        st.cacheIp6 route.ipv6route route.ipv6prefixlen s) st).session = st.session := by
    induction routes generalizing st with
    | nil => rfl
    | cons route routes ih => rw [List.foldl_cons, ih, State.cacheIp6]
  simp only [takeOver]
  split
  · exact (cached ..).trans rfl
  · exact (cached ..).trans rfl

theorem leaveBundle_session (s b : Nat) : (leaveBundle st s b).session = st.session := by
  simp only [leaveBundle]
  split_ifs
  · rfl
  · rfl
  · rfl
  · exact (takeOver_session _).trans rfl
  · rfl

/-- Taking back routes and address leaves the books alone. -/
theorem dropRoutes_books (s b : Nat) (delRoutes : Bool) (termCause : Option TermCause) :
    (dropRoutes st s b delRoutes termCause).books = st.books := by
  rw [dropRoutes]
  split
  · have unrouted6 : (unroute6 (unroute st s delRoutes) s delRoutes).books =
        (unroute st s delRoutes).books := congrArg Ledger.books (unroute6_ledger s delRoutes)
    exact (leaveBundle_books s b).trans (unrouted6.trans (unroute_books s delRoutes))
  · rfl

theorem dropRoutes_ip (s b : Nat) (delRoutes : Bool) (termCause : Option TermCause) :
    ((dropRoutes st s b delRoutes termCause).session s).ip =
      if termCause = some .callback then (st.session s).ip else 0 := by
  rw [dropRoutes]
  by_cases calledBack : termCause = some .callback
  · rw [if_pos calledBack, if_neg fun dropped => dropped.2 calledBack]
  · rw [if_neg calledBack]
    split
    · have held : ((unroute6 (unroute st s delRoutes) s delRoutes).session s).holding =
          ((unroute st s delRoutes).session s).holding :=
        congrFun (congrArg Ledger.holding (unroute6_ledger s delRoutes)) s
      rw [leaveBundle_session]
      exact (congrArg Holding.ip held).trans (unroute_ip s delRoutes)
    · rename_i kept
      by_contra given
      exact kept ⟨given, calledBack⟩

/-- The time to die after a shutdown. -/
def dieAfter (st : State) (s : Nat) : Nat :=
  if (st.session s).die = 0 then (st.time + 150) % 2 ^ 32 else (st.session s).die

theorem dieAfter_zero :
    dieAfter st s = 0 ↔ (st.session s).die = 0 ∧ (st.time + 150) % 2 ^ 32 = 0 := by
  rw [dieAfter]
  split
  · rename_i alive
    exact ⟨fun wraps => ⟨alive, wraps⟩, fun both => both.2⟩
  · rename_i dying
    exact ⟨fun alive => absurd alive dying, fun both => both.1⟩

theorem announceKill_session (s : Nat) :
    (announceKill st s).session =
      update st.session s { st.session s with die := dieAfter st s } := by
  rw [announceKill, dieAfter]
  by_cases alive : (st.session s).die = 0
  · rw [if_pos alive, if_pos alive]
    rfl
  · rw [if_neg alive, if_neg alive]
    exact (update_eq_self ..).symm

theorem announceKill_estate (s : Nat) :
    (announceKill st s).estate = { st.estate with
      session := update st.session s { st.session s with die := dieAfter st s } } := by
  rw [← announceKill_session, announceKill]
  split <;> rfl

/-- Noting the time to die again changes nothing. -/
theorem markDying_again {st' : State} (same : st'.estate = (announceKill st s).estate) :
    markDying st' s = st' := by
  rw [announceKill_estate] at same
  have session : st'.session s = { st.session s with die := dieAfter st s } :=
    (congrFun (congrArg Estate.session same) s).trans (update_self ..)
  have time : st'.time = st.time := congrArg Estate.time same
  rw [markDying]
  split
  · rename_i alive
    apply setSession_eq
    rw [session] at alive
    rw [session, time, (dieAfter_zero.mp alive).2]
    exact congrArg (fun die => { st.session s with die := die }) alive.symm
  · rfl

/-- The tables when the session was accounted for, before its routes are dropped. -/
def accounted (st : State) (s : Nat) (reason : String) (termCause : Option TermCause) : State :=
  accountOnce (announceKill st s) s (st.session s).walledGarden reason termCause

theorem accounted_estate (s : Nat) (reason : String) (termCause : Option TermCause) :
    (accounted st s reason termCause).estate = { st.estate with
      session := update st.session s { st.session s with die := dieAfter st s } } :=
  (accountOnce_estate ..).trans (announceKill_estate s)

theorem accounted_session (s : Nat) (reason : String) (termCause : Option TermCause) :
    (accounted st s reason termCause).session s =
      { st.session s with die := dieAfter st s } :=
  (congrFun (congrArg Estate.session (accounted_estate s reason termCause)) s).trans
    (update_self ..)

/-- Whether this is the last link of its bundle, or in no bundle. -/
def lastLink (st : State) (s : Nat) : Bool :=
  (st.session s).bundle = 0 ∨ (st.bundle (st.session s).bundle).numOfLinks = 1

section Shutdown

variable (reason : String) (cdnResult cdnError : Nat) (termCause : Option TermCause)
  (opened : (st.session s).opened ≠ 0)
include opened

theorem sessionshutdown_eq :
    sessionshutdown st s reason cdnResult cdnError termCause =
      finishShutdown (dropRoutes (accounted st s reason termCause) s (st.session s).bundle
        (lastLink st s) termCause) s cdnResult cdnError := by
  simp only [sessionshutdown]
  rw [if_neg opened, markDying_again (accountOnce_estate ..)]
  rfl

theorem sessionshutdown_books :
    (sessionshutdown st s reason cdnResult cdnError termCause).books =
      (accounted st s reason termCause).books := by
  rw [sessionshutdown_eq reason cdnResult cdnError termCause opened]
  exact (congrArg Ledger.books (finishShutdown_ledger s cdnResult cdnError)).trans
    (dropRoutes_books ..)

theorem sessionshutdown_ip :
    ((sessionshutdown st s reason cdnResult cdnError termCause).session s).ip =
      if termCause = some .callback then (st.session s).ip else 0 := by
  rw [sessionshutdown_eq reason cdnResult cdnError termCause opened]
  refine (congrArg (fun ledger : Ledger => (ledger.holding s).ip)
    (finishShutdown_ledger s cdnResult cdnError)).trans ((dropRoutes_ip ..).trans ?_)
  rw [accounted_session]

theorem sessionshutdown_standing :
    ((sessionshutdown st s reason cdnResult cdnError termCause).session s).standing =
      { (st.session s).standing with die := dieAfter st s } := by
  refine (congrArg (fun books : Books => books.standing s)
    (sessionshutdown_books reason cdnResult cdnError termCause opened)).trans ?_
  exact congrArg Session.standing (accounted_session s reason termCause)

end Shutdown

theorem routeset_session (s : Nat) (ip : InAddr) (prefixlen : Nat) (add : Bool) :
    (routeset st s ip prefixlen add).session = st.session := by
  rw [routeset]
  split <;> rfl

theorem routesetAll_session (s : Nat) (add : Bool) (routes : List Route) (st : State) :
    (routesetAll st s add routes).session = st.session := by
  induction routes generalizing st with
  | nil => rfl
  | cons route routes ih => rw [routesetAll, ih, routeset_session]

theorem State.setSession_holding {change : Session → Session} (taken : Holding → Holding)
    (takes : (change (st.session s)).holding = taken (st.session s).holding) (x : Nat) :
    ((st.setSession s change).session x).holding =
      if x = s then taken (st.session x).holding else (st.session x).holding := by
  by_cases same : x = s
  · rw [if_pos same, same, setSession_same, takes]
  · rw [if_neg same, setSession_other same]

theorem freeIpAddress_holding (s x : Nat) :
    ((freeIpAddress st s).session x).holding =
      if x = s then { (st.session x).holding with ip := 0 } else (st.session x).holding := by
  simp only [freeIpAddress]
  split
  · rename_i none
    split
    · rename_i same
      rw [same, ← none]
      rfl
    · rfl
  · rw [setPool_session]
    exact setSession_holding (fun holding => { holding with ip := 0 }) rfl x

theorem unroute_holding (s : Nat) (delRoutes : Bool) (x : Nat) :
    ((unroute st s delRoutes).session x).holding =
      if x = s then { (st.session x).holding with ip := 0, route := [] }
      else (st.session x).holding := by
  let deleted := if delRoutes then routesetAll st s false (st.session s).route else st
  have same : deleted.session = st.session := by
    simp only [deleted]
    split
    · exact routesetAll_session ..
    · rfl
  let cleared := deleted.setSession s fun session => { session with route := [] }
  have clears : (cleared.session x).holding = if x = s then
      { (st.session x).holding with route := [] } else (st.session x).holding := by
    rw [← same]
    exact setSession_holding (fun holding => { holding with route := [] }) rfl x
  have unaddressed : ∀ st' : State, st'.session = cleared.session →
      ((st'.setSession s fun session => { session with ip := 0 }).session x).holding =
        if x = s then { (cleared.session x).holding with ip := 0 }
        else (cleared.session x).holding := by
    intro st' same
    rw [← same]
    exact setSession_holding (fun holding => { holding with ip := 0 }) rfl x
  have both : (if x = s then { (cleared.session x).holding with ip := 0 }
      else (cleared.session x).holding) = if x = s then
        { (st.session x).holding with ip := 0, route := [] } else (st.session x).holding := by
    rw [clears]
    split <;> rfl
  rw [← both, unroute]
  split
  · apply unaddressed
    split
    · exact routeset_session ..
    · rfl
  · exact freeIpAddress_holding s x

theorem dropRoutes_holding (s b : Nat) (delRoutes : Bool) (termCause : Option TermCause)
    (x : Nat) :
    ((dropRoutes st s b delRoutes termCause).session x).holding = (st.session x).holding ∨
      ((dropRoutes st s b delRoutes termCause).session x).holding =
        { (st.session x).holding with ip := 0, route := [] } := by
  rw [dropRoutes]
  split
  · have held : ((unroute6 (unroute st s delRoutes) s delRoutes).session x).holding =
        ((unroute st s delRoutes).session x).holding :=
      congrFun (congrArg Ledger.holding (unroute6_ledger s delRoutes)) x
    rw [leaveBundle_session, held, unroute_holding]
    split
    · exact Or.inr rfl
    · exact Or.inl rfl
  · exact Or.inl rfl

theorem sessionshutdown_holding (st : State) (s : Nat) (reason : String) (cdnResult cdnError : Nat)
    (termCause : Option TermCause) (x : Nat) :
    ((sessionshutdown st s reason cdnResult cdnError termCause).session x).holding =
        (st.session x).holding ∨
      ((sessionshutdown st s reason cdnResult cdnError termCause).session x).holding =
        { (st.session x).holding with ip := 0, route := [] } := by
  by_cases opened : (st.session s).opened = 0
  · rw [sessionshutdown, if_pos opened]
    exact Or.inl rfl
  · have accounts : ((accounted st s reason termCause).session x).holding =
        (st.session x).holding := by
      have session : (accounted st s reason termCause).session =
          update st.session s { st.session s with die := dieAfter st s } :=
        congrArg Estate.session (accounted_estate s reason termCause)
      rw [session, update_apply]
      split
      · rename_i same
        rw [same]
        rfl
      · rfl
    rw [sessionshutdown_eq reason cdnResult cdnError termCause opened, ← accounts]
    have finished (st : State) :
        ((finishShutdown st s cdnResult cdnError).session x).holding =
          (st.session x).holding :=
      congrFun (congrArg Ledger.holding (finishShutdown_ledger s cdnResult cdnError)) x
    rw [finished]
    exact dropRoutes_holding ..

theorem sessionshutdown_bundle (s : Nat) (reason : String) (cdnResult cdnError : Nat)
    (termCause : Option TermCause) (x : Nat) :
    ((sessionshutdown st s reason cdnResult cdnError termCause).session x).bundle =
      (st.session x).bundle := by
  obtain same | taken := sessionshutdown_holding st s reason cdnResult cdnError termCause x
  · exact congrArg Holding.bundle same
  · exact (congrArg Holding.bundle taken :)

theorem sessionshutdown_unrouted (s : Nat) (reason : String) (cdnResult cdnError : Nat)
    (termCause : Option TermCause) {x : Nat} (unrouted : (st.session x).route = []) :
    ((sessionshutdown st s reason cdnResult cdnError termCause).session x).route = [] := by
  obtain same | taken := sessionshutdown_holding st s reason cdnResult cdnError termCause x
  · exact (congrArg Holding.route same).trans unrouted
  · exact (congrArg Holding.route taken :)

/-- Of what a session is shut down and killed by, only the time to die may have changed. -/
structure Kept (st st' : State) : Prop where
  standing : ∀ s, ∃ die, (st'.session s).standing = { (st.session s).standing with die := die }
  timeNow : st'.timeNow = st.timeNow
  highestSessionid : st'.highestSessionid = st.highestSessionid
  config : st'.config = st.config
  tunnels : st'.tunnel = st.tunnel
  highestTunnelid : st'.highestTunnelid = st.highestTunnelid

namespace Kept

variable {st' st'' : State}

theorem refl (st : State) : Kept st st := ⟨fun _ => ⟨_, rfl⟩, rfl, rfl, rfl, rfl, rfl⟩

theorem trans (first : Kept st st') (second : Kept st' st'') : Kept st st'' := by
  refine ⟨fun s => ?_, second.timeNow.trans first.timeNow,
    second.highestSessionid.trans first.highestSessionid, second.config.trans first.config,
    second.tunnels.trans first.tunnels, second.highestTunnelid.trans first.highestTunnelid⟩
  obtain ⟨die, same⟩ := first.standing s
  obtain ⟨die', same'⟩ := second.standing s
  exact ⟨die', by rw [same', same]⟩

theorem of_books (same : st'.books = st.books) : Kept st st' :=
  ⟨fun s => ⟨_, congrArg (fun books : Books => books.standing s) same⟩,
    congrArg Books.timeNow same, congrArg Books.highestSessionid same, congrArg Books.config same,
    congrArg Books.tunnel same, congrArg Books.highestTunnelid same⟩

theorem of_estate (same : st'.estate = st.estate) : Kept st st' :=
  ⟨fun s => ⟨_, congrArg (fun estate : Estate => (estate.session s).standing) same⟩,
    congrArg Estate.timeNow same, congrArg Estate.highestSessionid same,
    congrArg Estate.config same, congrArg Estate.tunnel same,
    congrArg Estate.highestTunnelid same⟩

variable (kept : Kept st st') (s : Nat)
include kept

theorem opened : (st'.session s).opened = (st.session s).opened := by
  obtain ⟨_, same⟩ := kept.standing s
  exact (congrArg Standing.opened same :)

theorem next : (st'.session s).next = (st.session s).next := by
  obtain ⟨_, same⟩ := kept.standing s
  exact (congrArg Standing.next same :)

theorem forwardtosession : (st'.session s).forwardtosession = (st.session s).forwardtosession := by
  obtain ⟨_, same⟩ := kept.standing s
  exact (congrArg Standing.forwardtosession same :)

end Kept

theorem accounted_kept (s : Nat) (reason : String) (termCause : Option TermCause) :
    Kept st (accounted st s reason termCause) := by
  have estate : (accounted st s reason termCause).estate = _ :=
    accounted_estate s reason termCause
  refine ⟨fun s' => ?_, congrArg Estate.timeNow estate,
    congrArg Estate.highestSessionid estate, congrArg Estate.config estate,
    congrArg Estate.tunnel estate, congrArg Estate.highestTunnelid estate⟩
  have session : (accounted st s reason termCause).session =
      update st.session s { st.session s with die := dieAfter st s } :=
    congrArg Estate.session estate
  rw [session]
  by_cases same : s' = s
  · rw [same, update_self]
    exact ⟨_, rfl⟩
  · exact ⟨_, congrArg Session.standing (update_of_ne same ..)⟩

theorem sessionshutdown_kept (s : Nat) (reason : String) (cdnResult cdnError : Nat)
    (termCause : Option TermCause) :
    Kept st (sessionshutdown st s reason cdnResult cdnError termCause) := by
  by_cases opened : (st.session s).opened = 0
  · rw [sessionshutdown, if_pos opened]
    exact Kept.refl st
  · exact (accounted_kept s reason termCause).trans
      (Kept.of_books (sessionshutdown_books reason cdnResult cdnError termCause opened))

theorem shutForKill_kept (s : Nat) (reason : Option String) (termCause : Option TermCause) :
    Kept st (shutForKill st s reason termCause) := by
  rw [shutForKill]
  split
  · exact sessionshutdown_kept ..
  · exact Kept.refl st

theorem shutLinked_kept (s : Nat) (reason : Option String) :
    Kept st (shutLinked st s reason) := by
  simp only [shutLinked]
  split
  · exact sessionshutdown_kept ..
  · exact Kept.refl st

theorem sessionshutdown_time (st : State) (s : Nat) (reason : String) (cdnResult cdnError : Nat)
    (termCause : Option TermCause) :
    (sessionshutdown st s reason cdnResult cdnError termCause).time = st.time := by
  by_cases closed : (st.session s).opened = 0
  · rw [sessionshutdown, if_pos closed]
  · exact (congrArg Books.time (sessionshutdown_books _ _ _ _ closed)).trans
      (congrArg Estate.time (accounted_estate s _ termCause))

theorem shutForKill_time (s : Nat) (reason : Option String) (termCause : Option TermCause) :
    (shutForKill st s reason termCause).time = st.time := by
  rw [shutForKill]
  split
  · exact sessionshutdown_time ..
  · rfl

theorem sessionkill_cases (st : State) (s : Nat) (reason : Option String)
    (termCause : Option TermCause) :
    (sessionkill st s reason termCause = st ∧
        ((st.session s).opened = 0 ∨ (st.session s).next ≠ 0)) ∨
      (st.session s).opened ≠ 0 ∧ (st.session s).next = 0 ∧ ∃ st', Kept st st' ∧
        sessionkill st s reason termCause = (sessionclear st' s).emit (.clusterSession s) := by
  rw [sessionkill]
  by_cases opened : (st.session s).opened = 0
  · exact Or.inl ⟨if_pos opened, Or.inl opened⟩
  · rw [if_neg opened]
    by_cases next : (st.session s).next = 0
    · refine Or.inr ⟨opened, next, _, ?_, if_neg (not_not.mpr next)⟩
      exact ((shutForKill_kept s reason termCause).trans
        (Kept.of_estate (releaseSlot_estate s))).trans (shutLinked_kept s reason)
    · exact Or.inl ⟨if_pos next, Or.inr next⟩

end L2tpns.Server
