import L2tpns.Server.BundleRuns
import L2tpns.Server.Zapping

/-! # Setting a session up, and the sessions it zaps

A session that is set up zaps the others that have its address or its user, or kills itself
if it is told to. In the last case the setup goes on with an entry that is not in use. In
every run without that, a session that was set up has its address to itself, and the map
and the list of free sessions are in order (`L2tpns.Server.setup_exclusive`).
-/

namespace L2tpns.Server

open Foundation

variable {st st' : State} {s : Nat}

/-- What a setup writes over the addresses: what the session maps. -/
def setupPatches (st : State) (s : Nat) : IpPatches :=
  let session := st.session s
  if lastLink st s then
    routePatches st s s ++
      if session.ipPoolIndex = -1 then
        if session.route.any (·.covers session.ip) then [] else [routePatch session.ip 0 s]
      else [addressPatch session.ip s]
  else []

theorem setupRoutes_patched (some : s ≠ 0) :
    Patched st (setupRoutes st s) (setupPatches st s) [] := by
  have routed := @routesetAll_patched s some true (st.session s).route st
  simp only [if_true] at routed
  simp only [setupRoutes, setupPatches, lastLink, decide_eq_true_eq]
  split
  · split
    · split
      · rw [List.append_nil]
        exact routed
      · exact routed.trans (routeset_patched some _ 0 true)
    · exact routed.trans (cacheIp_patched ..)
  · exact Patched.refl st

theorem setupPatches_value (fits : s < maxSession) {a : InAddr} {v : Nat}
    (found : Patch.last (setupPatches st s) a = some v) :
    v = s ∧ lastLink st s = true ∧ (st.session s).deed.Maps (st.session s).ip a := by
  have number : ((s : Int) % 2 ^ 16).toNat = s := by
    have bound : maxSession = 60000 := rfl
    omega
  obtain ⟨patch, member, covered, rfl⟩ := Patch.exists_of_last found
  simp only [setupPatches] at member
  by_cases last : lastLink st s = true
  · rw [if_pos last, List.mem_append] at member
    rcases member with routes | address
    · obtain ⟨route, member, rfl⟩ := List.mem_map.mp routes
      exact ⟨number, last, .inl ⟨route, member, covered⟩⟩
    · by_cases static : (st.session s).ipPoolIndex = -1
      · rw [if_pos static] at address
        by_cases routed : (st.session s).route.any (·.covers (st.session s).ip) = true
        · rw [if_pos routed] at address
          exact absurd address List.not_mem_nil
        · rw [if_neg routed] at address
          rw [List.mem_singleton.mp address] at covered ⊢
          refine ⟨number, last, .inr ?_⟩
          rw [if_pos (show (st.session s).deed.index = -1 from static)]
          exact ⟨Bool.eq_false_of_not_eq_true routed, covered⟩
      · rw [if_neg static] at address
        rw [List.mem_singleton.mp address] at covered ⊢
        refine ⟨number, last, .inr ?_⟩
        rw [if_neg (show ¬ (st.session s).deed.index = -1 from static)]
        exact of_decide_eq_true covered
  · rw [if_neg last] at member
    exact absurd member List.not_mem_nil

theorem setupPatches_covers (last : lastLink st s = true) {a : InAddr}
    (maps : (st.session s).deed.Maps (st.session s).ip a) :
    Patch.last (setupPatches st s) a ≠ none := by
  have patches : setupPatches st s = routePatches st s s ++
      if (st.session s).ipPoolIndex = -1 then
        if (st.session s).route.any (·.covers (st.session s).ip) then []
        else [routePatch (st.session s).ip 0 s]
      else [addressPatch (st.session s).ip s] := if_pos last
  rw [patches]
  rcases maps with ⟨route, member, covered⟩ | address
  · have written : routePatch route.ip route.prefixlen s ∈ routePatches st s s :=
      List.mem_map_of_mem member
    exact Patch.last_ne_none (List.mem_append_left _ written) covered
  · by_cases static : (st.session s).deed.index = -1
    · rw [if_pos static] at address
      have uncovered : (st.session s).route.any (·.covers (st.session s).ip) = false := address.1
      rw [if_pos (show (st.session s).ipPoolIndex = -1 from static), uncovered, if_neg nofun]
      exact Patch.last_ne_none (List.mem_append_right _ (List.mem_singleton_self _)) address.2
    · rw [if_neg static] at address
      rw [if_neg (show ¬ (st.session s).ipPoolIndex = -1 from static)]
      exact Patch.last_ne_none (List.mem_append_right _ (List.mem_singleton_self _))
        (decide_eq_true address)

theorem Patched.cell {patches : IpPatches} {patches6 : Ipv6Patches}
    (patched : Patched st st' patches patches6) (a : InAddr) :
    st'.tenancy.cell a = (Patch.last patches a).getD (st.tenancy.cell a) :=
  patched.cells a

theorem Tenancy.Sound.setupRoutes (sound : st.tenancy.Sound) (strung : Strung st)
    (live : st.roster.Live s) (addressed : (st.session s).ip ≠ 0) :
    (setupRoutes st s).tenancy.Sound := by
  obtain ⟨some, fits, _⟩ := strung.inUse s live.1
  have roster : (Server.setupRoutes st s).tenancy.roster = st.tenancy.roster :=
    setupRoutes_roster s
  have deed : (Server.setupRoutes st s).tenancy.deed = st.tenancy.deed := by
    funext x
    exact congrArg Session.deed (congrFun (setupRoutes_session s) x)
  have cell := (@setupRoutes_patched st s (Nat.ne_of_gt some)).cell
  have same : ∀ x a, (Server.setupRoutes st s).tenancy.Tenant x a ↔ st.tenancy.Tenant x a := by
    intro x a
    constructor
    · rintro ⟨live, addressed, maps, first⟩
      rw [roster] at live addressed maps first
      rw [deed] at maps
      exact ⟨live, addressed, maps, first⟩
    · rintro ⟨live, addressed, maps, first⟩
      refine ⟨?_, ?_, ?_, ?_⟩ <;> rw [roster]
      · exact live
      · exact addressed
      · rw [deed]
        exact maps
      · exact first
  refine ⟨?_, fun a => ?_, ?_, ?_, ?_⟩
  · rw [roster]
    exact sound.roster
  · rw [cell a, same]
    cases found : Patch.last (setupPatches st s) a with
    | none => exact sound.cells a
    | some v =>
        obtain ⟨own, last, maps⟩ := setupPatches_value fits found
        rw [Option.getD_some, own]
        refine .inr ⟨live, addressed, maps, fun real => ?_⟩
        have link : st.roster.LinkOf (st.session s).bundle s := ⟨live, rfl⟩
        have listed := sound.roster.listed _ (sound.roster.isOpen real link)
        have single : (st.bundle (st.session s).bundle).numOfLinks = 1 :=
          (of_decide_eq_true last).resolve_left real
        exact sound.roster.alone real link single (listed.lists.holds listed.some)
  · rw [deed]
    exact sound.indexes
  · rw [roster, deed]
    exact sound.alike
  · rw [roster, deed]
    exact sound.own

theorem changeState_seats (s : Nat) (fsm : Fsm) (new : FsmState) :
    Seats s st (changeState st s fsm new) := by
  simp only [changeState]
  split
  · exact Seats.refl st
  · refine Seats.trans ?_ (Seats.emit _)
    have quiet : Seats s st (if new.isQuiet then
        st.setLocal s fun own => own.setTimer ⟨0, 0, 0⟩ fsm else st) := by
      split
      · exact ⟨fun _ _ => rfl, rfl, rfl, rfl, rfl, rfl, rfl, rfl, rfl⟩
      · exact Seats.refl st
    refine quiet.trans ?_
    exact Seats.setSession rfl

theorem sendipcp_seats (s : Nat) : Seats s st (sendipcp st s) := by
  have numbered (next : Nat) : Seats s st (if (st.session s).uniqueId = 0 then
      { st with lastId := next }.setSession s fun session => { session with uniqueId := next }
      else st) := by
    split
    · have counted : Seats s st { st with lastId := next } :=
        ⟨fun _ _ => rfl, rfl, rfl, rfl, rfl, rfl, rfl, rfl, rfl⟩
      refine counted.trans ?_
      exact Seats.setSession rfl
    · exact Seats.refl st
  have timed (st : State) : Seats s st (restartTimer st s .ipcp) :=
    ⟨fun _ _ => rfl, rfl, rfl, rfl, rfl, rfl, rfl, rfl, rfl⟩
  exact ((numbered _).trans (Seats.emit _)).trans (timed _)

theorem Seats.of_estate (same : st'.estate = st.estate) : Seats s st st' := by
  have session : st'.session = st.session := congrArg Estate.session same
  refine ⟨fun x _ => congrFun session x, ?_, congrArg Estate.config same,
    congrArg Estate.time same, congrArg Estate.timeNow same,
    congrArg Estate.highestSessionid same, congrArg Estate.ipAddressPool same,
    congrArg Estate.ipPoolSize same, congrArg Estate.ipHash same⟩
  rw [session]

theorem ipcpOpen_seats (s : Nat) : Seats s st (ipcpOpen st s) := by
  have upward {st' : State} (seats : Seats s st st') :
      Seats s st (if (st'.session s).ppp.ipv6cp = .stopped then
        changeState (sendipv6cp st' s) s .ipv6cp .requestSent else st') := by
    split
    · have sent : Seats s st' (sendipv6cp st' s) :=
        ⟨fun _ _ => rfl, rfl, rfl, rfl, rfl, rfl, rfl, rfl, rfl⟩
      exact (seats.trans sent).trans (changeState_seats ..)
    · exact seats
  have opened : Seats s st (changeState st s .ipcp .opened) := changeState_seats ..
  simp only [ipcpOpen]
  apply upward
  split_ifs
  · exact opened
  · exact opened.trans (Seats.of_estate (radiusnew_estate _ s))
  · have sends (st : State) (r : Nat) : Seats s st (radiussend st r .start) :=
      Seats.of_estate (radiussend_estate r rfl)
    have flagged (st : State) : Seats s st (st.setSession s fun session =>
        { session with flags := session.flags ||| sessionStarted }) := Seats.setSession rfl
    have allocated := opened.trans (Seats.of_estate (radiusnew_estate _ s))
    exact ((allocated.trans (sends _ _)).trans (flagged _)).trans (Seats.emit _)

theorem lcpOpen_seats (authenticated : (st.sessLocal s).lcpAuthtype = 0) :
    Seats s st (lcpOpen st s) := by
  let entered := st.setSession s fun session =>
    { session with ppp := { session.ppp with phase := .network } }
  have enters : Seats s st entered := Seats.setSession rfl
  have opened : Seats s st (changeState entered s .lcp .opened) :=
    enters.trans (changeState_seats ..)
  simp only [lcpOpen, authenticated]
  rw [if_neg (not_not.mpr rfl), if_neg (by simp)]
  split
  · exact (((opened.trans (sendipcp_seats s)).trans (changeState_seats ..)).trans
      (changeState_seats ..)).trans (changeState_seats ..)
  · exact opened.trans (ipcpOpen_seats s)

theorem throttleSession_seats (s : Nat) (rateIn rateOut : Int) :
    Seats s st (throttleSession st s rateIn rateOut) := by
  rw [throttleSession]
  split
  · exact Seats.refl st
  · refine Seats.trans ?_ (Seats.emit _)
    exact Seats.setSession rfl

theorem setupNetwork_seats (s : Nat) : Seats s st (setupNetwork st s) := by
  have authenticated : Seats s st (st.setLocal s fun own => { own with lcpAuthtype := 0 }) :=
    ⟨fun _ _ => rfl, rfl, rfl, rfl, rfl, rfl, rfl, rfl, rfl⟩
  have opened := authenticated.trans (lcpOpen_seats (s := s) (by rw [State.setLocal_same]))
  have throttled {st' : State} (seats : Seats s st st') :
      Seats s st (if (st'.session s).throttleIn ≠ 0 ∨ (st'.session s).throttleOut ≠ 0 then
        throttleSession st' s (st'.session s).throttleIn (st'.session s).throttleOut
      else st') := by
    split
    · exact seats.trans (throttleSession_seats ..)
    · exact seats
  simp only [setupNetwork]
  refine Seats.trans ?_ (Seats.emit _)
  refine Seats.trans (throttled (opened.trans (Seats.emit (.newSession s)))) ?_
  exact Seats.setSession rfl

theorem setupNetwork_tenancy (s : Nat) : (setupNetwork st s).tenancy = st.tenancy := by
  have seats := @setupNetwork_seats st s
  have deed : (setupNetwork st s).tenancy.deed = st.tenancy.deed := by
    funext x
    by_cases here : x = s
    · rw [here]
      exact (congrArg Subscriber.deed seats.own :)
    · exact congrArg Session.deed (seats.others x here)
  have ipHash := seats.ipHash
  have roster := @setupNetwork_roster st s
  generalize setupNetwork st s = entered at deed ipHash roster ⊢
  have cell : entered.tenancy.cell = st.tenancy.cell := congrArg lookupIpmap ipHash
  have same : entered.tenancy = ⟨entered.roster, entered.tenancy.deed, entered.tenancy.cell⟩ := rfl
  rw [same, roster, deed, cell]
  rfl

theorem Seats.sameList (seats : Seats s st st') : SameList st st' := by
  refine ⟨fun x => ?_, fun x => ?_, seats.timeNow⟩
  · by_cases here : x = s
    · rw [here]
      exact (congrArg Subscriber.next seats.own :)
    · rw [seats.others x here]
  · by_cases here : x = s
    · rw [here]
      exact (congrArg Subscriber.opened seats.own :)
    · rw [seats.others x here]

/-- The tables are in order after the routes and the network phase. -/
theorem Tenanted.finish (tenanted : Tenanted st) (live : st.roster.Live s)
    (addressed : (st.session s).ip ≠ 0) : Tenanted (setupNetwork (setupRoutes st s) s) := by
  have seats := @setupNetwork_seats (setupRoutes st s) s
  have books := @setupRoutes_books st s
  have same : SameList st (setupRoutes st s) :=
    SameList.of_session (setupRoutes_session s) (congrArg Books.timeNow books)
  refine ⟨?_, seats.sameList.strung (same.strung tenanted.strung), fun x used => ?_⟩
  · rw [setupNetwork_tenancy]
    exact tenanted.tenancy.setupRoutes tenanted.strung live addressed
  · rw [seats.highest, show (setupRoutes st s).highestSessionid = st.highestSessionid from
      congrArg Books.highestSessionid books]
    rw [seats.sameList.opened, setupRoutes_session] at used
    exact tenanted.numbered x used

/-- A session that was set up is open, its address resolves to it or a link of its bundle, and
no other has the address, unless that is allowed. Entries that are not in use were not
touched or cleared, the free list has them, and the map names none of them. -/
structure SetUp (st st' : State) (s : Nat) (returns : Bool) : Prop where
  opened : returns → (st'.session s).opened ≠ 0
  resolves : returns → ∃ x, sessionbyip st' (st'.session s).ip = x ∧
    (st'.session x).opened ≠ 0 ∧ (x = s ∨ (st'.session s).bundle ≠ 0 ∧
      st'.roster.LinkOf (st'.session s).bundle x)
  alone : returns → st.config.allowDuplicateIp = false → ∀ i, i ≠ s →
    (st'.session i).opened ≠ 0 → ¬ SameBundle st' s i → (st'.session i).ip ≠ (st'.session s).ip
  entries : ∀ x, x ≠ 0 → (st'.session x).opened = 0 →
    st'.session x = st.session x ∨ ∃ next, st'.session x = { Session.zero with next := next }
  list : Strung st'
  map : ∀ a x, lookupIpmap st'.ipHash a = x → 0 < x → x < maxSession → (st'.session x).opened ≠ 0

/-- The address of a bundle that has other links resolves to one of them, and no session is
zapped that maps it. -/
structure Stands (st : State) (s b : Nat) (ip : InAddr) : Prop where
  link : st.roster.LinkOf b (sessionbyip st ip)
  undisturbed : ∀ i, i ≠ s → (st.session i).opened ≠ 0 → (st.session i).bundle ≠ b →
    ((st.session i).ip = ip → st.config.allowDuplicateIp = true) ∧
      ((st.session i).ip ≠ ip → SharesUser st s i → ¬ Routed (st.session i).route ip)

/-- Setup meets no defect: the bundle has room and routes of its own, the session finds an
address that it maps, it does not kill itself, and the address of its bundle is mapped. -/
structure MayInstall (st : State) (s : Nat) : Prop where
  maySetUp : MaySetUp st s
  placed : ∀ b, bundleFor st s = some b → MayBePlaced st s
  lives : st.config.suicideDuplicateIp → addressFor st s ≠ 0 → ∀ b, bundleFor st s = some b →
    ∀ i, i ≠ s → i ≠ 0 → i ≤ st.highestSessionid → (st.session i).ip = addressFor st s →
      b ≠ 0 ∧ (st.session i).bundle = b
  stands : ∀ b, b ≠ 0 → bundleFor st s = some b →
    (joinsBundle st s = none → (st.bundle b).isOpen = true ∧ (st.bundle b).numOfLinks ≠ 1) →
      Stands st s b (addressFor st s)

/-- What of that the map needs: the address of a bundle is left to it. -/
structure MayMap (st : State) (s : Nat) : Prop where
  maySetUp : MaySetUp st s
  placed : ∀ b, bundleFor st s = some b → MayBePlaced st s
  lives : st.config.suicideDuplicateIp → addressFor st s ≠ 0 → ∀ b, bundleFor st s = some b →
    ∀ i, i ≠ s → i ≠ 0 → i ≤ st.highestSessionid → (st.session i).ip = addressFor st s →
      b ≠ 0 ∧ (st.session i).bundle = b

theorem MayInstall.mayMap (may : MayInstall st s) : MayMap st s :=
  ⟨may.maySetUp, may.placed, may.lives⟩

theorem Tenanted.map (tenanted : Tenanted st) {a : InAddr} {x : Nat}
    (named : lookupIpmap st.ipHash a = x) (some : 0 < x) (fits : x < maxSession) :
    (st.session x).opened ≠ 0 := by
  have cell : st.tenancy.cell a = x := named
  have tenant := tenanted.tenancy.cells a
  rw [cell] at tenant
  exact (tenant.resolve_left fun nobody => nobody.outside ⟨some, fits⟩).live.1

theorem Tenanted.refused (tenanted : Tenanted st) (awake : st.Awake)
    (used : (st.session s).opened ≠ 0) (reason : String) (cdnResult cdnError : Nat) :
    SetUp st (Server.sessionshutdown st s reason cdnResult cdnError (some .serviceUnavailable)) s
        false ∧
      Tenanted
        (Server.sessionshutdown st s reason cdnResult cdnError (some .serviceUnavailable)) := by
  have cause : some TermCause.serviceUnavailable ≠ some .callback := by decide
  have shut := tenanted.sessionshutdown (i := s) awake cause reason cdnResult cdnError
  have kept := @sessionshutdown_kept st s reason cdnResult cdnError (some .serviceUnavailable)
  have only := @sessionshutdown_only st s reason cdnResult cdnError (some .serviceUnavailable)
  generalize Server.sessionshutdown st s reason cdnResult cdnError (some .serviceUnavailable) = st'
    at shut kept only ⊢
  refine ⟨⟨nofun, nofun, nofun, fun x _ closed => .inl ?_, shut.strung, fun a x => shut.map⟩, shut⟩
  apply only.others
  rintro rfl
  rw [kept.opened] at closed
  exact used closed

section Granted

variable {placed : State} {b : Nat} {links : Links} (facts : Placed st placed s b links)
include facts

theorem Placed.opened : (placed.session s).opened = (st.session s).opened := by
  obtain ⟨_, _, own⟩ := facts.own
  exact (congrArg Subscriber.opened own :)

theorem Placed.user : (placed.session s).user = (st.session s).user ∧
    (placed.session s).walledGarden = (st.session s).walledGarden := by
  obtain ⟨_, _, own⟩ := facts.own
  exact ⟨(congrArg Subscriber.user own :), (congrArg Subscriber.walledGarden own :)⟩

theorem Placed.sameList : SameList st placed := by
  obtain ⟨_, _, own⟩ := facts.own
  refine ⟨fun x => ?_, fun x => ?_, facts.timeNow⟩
  · by_cases here : x = s
    · rw [here]
      exact (congrArg Subscriber.next own :)
    · rw [facts.others x here]
  · by_cases here : x = s
    · rw [here]
      exact (congrArg Subscriber.opened own :)
    · rw [facts.others x here]

theorem Tenanted.place (tenanted : Tenanted st) (may : MayBePlaced st s) : Tenanted placed := by
  refine ⟨tenanted.tenancy.place facts may, facts.sameList.strung tenanted.strung,
    fun x used => ?_⟩
  rw [facts.highest]
  rw [facts.sameList.opened] at used
  exact tenanted.numbered x used

/-- Zapping can begin when a session is placed. -/
theorem Tenanted.installing (tenanted : Tenanted st) (awake : st.Awake) (may : MayMap st s)
    (unlinked : (st.session s).forwardtosession = 0) :
    Installing placed s (addressFor st s) st.highestSessionid := by
  refine ⟨tenanted.place facts (may.placed b facts.known), ?_, ?_, ?_, ?_⟩
  · rw [State.Awake, facts.time]
    exact awake
  · rw [facts.opened]
    exact may.maySetUp.live.1
  · obtain ⟨_, _, own⟩ := facts.own
    exact (congrArg Subscriber.forwardtosession own :).trans unlinked
  · intro suicide i other some within same
    rw [facts.config] at suicide
    rw [facts.others i other] at same
    obtain ⟨real, bundle⟩ := may.lives suicide facts.address b facts.known i other some within same
    have own : (placed.session s).bundle = b := facts.bundle
    rw [SameBundle, own, facts.others i other, bundle]
    exact ⟨real, real, rfl⟩

theorem Placed.undisturbed (stands : Stands st s b (addressFor st s)) (real : b ≠ 0) :
    Undisturbed placed s (addressFor st s) := by
  intro i other opened apart
  have own : (placed.session s).bundle = b := facts.bundle
  obtain ⟨user, walled⟩ := facts.user
  rw [SameBundle, own, facts.others i other] at apart
  rw [facts.others i other] at opened ⊢
  have outside : (st.session i).bundle ≠ b := by
    intro same
    rw [same] at apart
    exact apart ⟨real, real, rfl⟩
  obtain ⟨twins, shares⟩ := stands.undisturbed i other opened outside
  rw [facts.config]
  refine ⟨twins, fun differs both => shares differs ?_⟩
  rw [SharesUser, facts.config, facts.others i other, user, walled] at both
  exact both

theorem Placed.lastLink (single : links.count = 1) (zaps : Zaps s placed st')
    (sound : st'.roster.Sound) (live : st'.roster.Live s) (may : st.roster.Live s) :
    lastLink st' s = true := by
  have own : (st'.session s).bundle = b := by
    rw [zaps.own]
    exact facts.bundle
  by_cases real : b = 0
  · exact decide_eq_true (.inl (own.trans real))
  · have alive : placed.roster.Live s := by
      rw [facts.roster]
      exact may
    have one : (placed.bundle b).numOfLinks = 1 :=
      (congrArg Links.count facts.links_self).trans single
    have only : ∀ x, st'.roster.LinkOf b x → x = s := by
      intro x link
      apply facts.sound.alone real ⟨alive, facts.bundle⟩ one
      refine ⟨⟨zaps.fewer x link.1.1, zaps.dying x link.1.1 link.1.2⟩, ?_⟩
      exact (zaps.users x link.1.1).2.2.1.symm.trans link.2
    refine decide_eq_true (.inr ?_)
    rw [own]
    exact sound.single real ⟨live, own⟩ only

theorem Placed.shared (sound : st.roster.Sound) (live : st.roster.Live s) (real : b ≠ 0)
    (several : links.count ≠ 1) :
    joinsBundle st s = none → (st.bundle b).isOpen = true ∧ (st.bundle b).numOfLinks ≠ 1 := by
  intro alone
  cases facts.seat with
  | keeps same _ => exact ⟨sound.isOpen real ⟨live, same⟩, several⟩
  | joins _ _ _ joins =>
      rw [alone] at joins
      exact nomatch joins
  | opens => exact absurd rfl several

theorem Placed.installed (zaps : Zaps s placed st') (used : (st'.session s).opened ≠ 0)
    (live : st.roster.Live s) :
    st'.roster.Live s ∧ (st'.session s).ip = addressFor st s ∧ (st'.session s).ip ≠ 0 := by
  have same : placed.roster.Live s := by
    rw [facts.roster]
    exact live
  have ip : (st'.session s).ip = addressFor st s := by
    rw [zaps.own]
    exact facts.ip
  refine ⟨⟨used, ?_⟩, ip, ?_⟩
  · change (st'.session s).die = 0
    rw [zaps.own]
    exact same.2
  · rw [ip]
    exact facts.address

theorem Tenanted.mapped (tenanted : Tenanted st) (awake : st.Awake) (may : MayMap st s)
    (unlinked : (st.session s).forwardtosession = 0) :
    Tenanted (setupNetwork (setupRoutes
      (zapSessions placed s (addressFor st s) 1 st.highestSessionid) s) s) := by
  have installing := tenanted.installing facts awake may unlinked
  obtain ⟨zaps, installed, _⟩ := zapSessions_spec facts.address st.highestSessionid 1 placed
    Nat.one_ne_zero (Nat.add_comm ..) installing fun j real below => absurd below (by omega)
  obtain ⟨alive, _, addressed⟩ := facts.installed zaps installed.used may.maySetUp.live
  exact installed.tenanted.finish alive addressed

/-- A setup that goes on leaves the tables in order, and the session set up. -/
theorem Tenanted.granted (tenanted : Tenanted st) (awake : st.Awake) (may : MayInstall st s)
    (unlinked : (st.session s).forwardtosession = 0) :
    SetUp st (setupNetwork (setupRoutes
        (zapSessions placed s (addressFor st s) 1 st.highestSessionid) s) s) s true ∧
      Tenanted (setupNetwork (setupRoutes
        (zapSessions placed s (addressFor st s) 1 st.highestSessionid) s) s) := by
  have live := may.maySetUp.live
  have installing := tenanted.installing facts awake may.mayMap unlinked
  obtain ⟨zaps, installed, twinless⟩ := zapSessions_spec facts.address st.highestSessionid 1 placed
    Nat.one_ne_zero (Nat.add_comm ..) installing fun j real below => absurd below (by omega)
  have spares := zapSessions_spares (s := s) facts.address st.highestSessionid 1 placed
    Nat.one_ne_zero (Nat.add_comm ..) installing
  generalize zapSessions placed s (addressFor st s) 1 st.highestSessionid = zapped
    at zaps installed twinless spares ⊢
  obtain ⟨alive, ip, addressed⟩ := facts.installed zaps installed.used live
  have bundle : (zapped.session s).bundle = b := by
    rw [zaps.own]
    exact facts.bundle
  obtain ⟨some, fits, _⟩ := installed.tenanted.strung.inUse s alive.1
  have finished := installed.tenanted.finish alive addressed
  have seats := @setupNetwork_seats (setupRoutes zapped s) s
  have roster : (setupNetwork (setupRoutes zapped s) s).roster = zapped.roster :=
    (setupNetwork_roster s).trans (setupRoutes_roster s)
  have cell : ∀ a, lookupIpmap (setupNetwork (setupRoutes zapped s) s).ipHash a =
      (Patch.last (setupPatches zapped s) a).getD (lookupIpmap zapped.ipHash a) := by
    intro a
    rw [seats.ipHash]
    exact (setupRoutes_patched (Nat.ne_of_gt some)).cell a
  have others : ∀ x, x ≠ s →
      (setupNetwork (setupRoutes zapped s) s).session x = zapped.session x := by
    intro x other
    rw [seats.others x other, setupRoutes_session]
  generalize setupNetwork (setupRoutes zapped s) s = st' at finished roster cell others ⊢
  have opened : ∀ x, (st'.session x).opened = (zapped.session x).opened :=
    fun x => congrFun (congrArg Roster.opened roster) x
  have ips : ∀ x, (st'.session x).ip = (zapped.session x).ip :=
    fun x => congrFun (congrArg Roster.ip roster) x
  have bundles : ∀ x, (st'.session x).bundle = (zapped.session x).bundle :=
    fun x => congrFun (congrArg Roster.bundle roster) x
  have resolved : ∀ x, lookupIpmap st'.ipHash (addressFor st s) = x →
      (zapped.session x).opened ≠ 0 → sessionbyip st' (addressFor st s) = x := by
    intro x named used
    rw [← opened] at used
    exact (finished.strung.resolves used).mpr named
  refine ⟨⟨fun _ => ?_, fun _ => ?_, fun _ forbidden i other used apart same => ?_,
    fun x real closed => ?_, finished.strung, fun a x => finished.map⟩, finished⟩
  · rw [opened]
    exact alive.1
  · rw [ips, ip, bundles, bundle, roster]
    by_cases last : lastLink zapped s = true
    · -- the only link of its bundle is routed
      refine ⟨s, resolved s ?_ alive.1, ?_, .inl rfl⟩
      · have maps : (zapped.session s).deed.Maps (zapped.session s).ip (addressFor st s) := by
          rw [zaps.own, show (placed.session s).ip = addressFor st s from facts.ip]
          exact facts.maps (may.placed b facts.known)
        obtain ⟨v, found⟩ := Option.ne_none_iff_exists'.mp (setupPatches_covers last maps)
        rw [cell, found, Option.getD_some]
        exact (setupPatches_value fits found).1
      · rw [opened]
        exact alive.1
    · -- the address of a bundle with other links is left to them
      have real : b ≠ 0 := fun none => last (decide_eq_true (.inl (bundle.trans none)))
      have several : links.count ≠ 1 := fun single =>
        last (facts.lastLink single zaps installed.tenanted.tenancy.roster alive live)
      have stands := may.stands b real facts.known
        (facts.shared tenanted.tenancy.roster live real several)
      obtain ⟨kept, links⟩ := spares (facts.undisturbed stands real)
      have link := stands.link
      have named : lookupIpmap st.ipHash (addressFor st s) =
          sessionbyip st (addressFor st s) := (tenanted.strung.resolves link.1.1).mp rfl
      generalize sessionbyip st (addressFor st s) = x at link named
      have linked : zapped.roster.LinkOf b x := by
        by_cases here : x = s
        · rw [here]
          exact ⟨alive, bundle⟩
        · have same : zapped.session x = st.session x := by
            rw [links x, facts.others x here]
            rw [SameBundle, facts.others x here, show (placed.session s).bundle = b from
              facts.bundle, show (st.session x).bundle = b from link.2]
            exact ⟨real, real, rfl⟩
          refine ⟨⟨?_, ?_⟩, ?_⟩
          · change (zapped.session x).opened ≠ 0
            rw [same]
            exact link.1.1
          · change (zapped.session x).die = 0
            rw [same]
            exact link.1.2
          · change (zapped.session x).bundle = b
            rw [same]
            exact link.2
      refine ⟨x, resolved x ?_ linked.1.1, ?_, .inr ⟨real, linked⟩⟩
      · have none : Patch.last (setupPatches zapped s) (addressFor st s) = none := by
          by_contra found
          obtain ⟨v, given⟩ := Option.ne_none_iff_exists'.mp found
          exact last (setupPatches_value fits given).2.1
        rw [cell, none, Option.getD_none, kept, facts.ipHash]
        exact named
      · rw [opened]
        exact linked.1.1
  · rw [opened] at used
    rw [ips, ips, ip] at same
    have real : i ≠ 0 := Nat.ne_of_gt (installed.tenanted.strung.inUse i used).1
    have within : i ≤ st.highestSessionid := by
      rw [← facts.highest, ← zaps.highest]
      exact installed.tenanted.numbered i used
    rw [← facts.config, ← zaps.config] at forbidden
    have together := twinless i real within other forbidden used same
    rw [SameBundle, bundles, bundles] at apart
    exact apart together
  · have other : x ≠ s := by
      rintro rfl
      rw [opened] at closed
      exact alive.1 closed
    rw [opened] at closed
    rw [others x other]
    rcases zaps.entries x real closed with same | cleared
    · rw [same, facts.others x other]
      exact .inl rfl
    · exact .inr cleared

end Granted

theorem Tenanted.sessionsetup (tenanted : Tenanted st) (awake : st.Awake) (may : MayInstall st s)
    (unlinked : (st.session s).forwardtosession = 0) (t : Nat) :
    SetUp st (Server.sessionsetup st s t) s (setupReturns st s) ∧
      Tenanted (Server.sessionsetup st s t) := by
  have spec := sessionsetup_spec tenanted.tenancy.roster may.maySetUp t
  generalize Server.sessionsetup st s t = st' at spec ⊢
  generalize setupReturns st s = returns at spec ⊢
  cases spec with
  | refused reason cdnResult cdnError =>
      exact tenanted.refused awake may.maySetUp.live.1 reason cdnResult cdnError
  | granted placed b links facts => exact tenanted.granted facts awake may unlinked

theorem State.start_strung (config : Config) (pool : Nat → IpPool) (ipPoolSize time : Nat)
    {timeNow : Nat} (clock : timeNow ≠ 0) :
    Strung (State.start config pool ipPoolSize time timeNow) := by
  have closed (s : Nat) :
      ((State.start config pool ipPoolSize time timeNow).session s).opened = 0 := by
    simp only [State.start]
    split <;> rfl
  have size : maxSession = 60000 := rfl
  refine ⟨⟨List.range' 1 (maxSession - 1), ?_, List.nodup_range', fun s => ?_⟩,
    fun s used => absurd (closed s) used, clock⟩
  · apply Chain.row Nat.one_pos
    · rfl
    · intro i below
      have real : 1 + i ≠ 0 := by omega
      simp only [State.start, if_neg real]
      by_cases more : 1 + i + 1 < maxSession
      · rw [if_pos more, if_pos (by omega)]
      · rw [if_neg more, if_neg (by omega)]
  · rw [List.mem_range'_1, State.IsFree]
    constructor
    · exact fun within => ⟨within.1, by omega, closed s⟩
    · exact fun free => ⟨free.1, by have := free.2.1; omega⟩

/-- When the server starts, the map is empty. -/
theorem State.start_tenanted (config : Config) (pool : Nat → IpPool) (ipPoolSize time : Nat)
    {timeNow : Nat} (clock : timeNow ≠ 0) :
    Tenanted (State.start config pool ipPoolSize time timeNow) := by
  have session (s : Nat) :
      ((State.start config pool ipPoolSize time timeNow).session s).opened = 0 ∧
        ((State.start config pool ipPoolSize time timeNow).session s).ipPoolIndex = 0 := by
    simp only [State.start]
    split <;> exact ⟨rfl, rfl⟩
  have dead : ∀ s, ¬ (State.start config pool ipPoolSize time timeNow).tenancy.roster.Live s :=
    fun s live => live.1 (session s).1
  refine ⟨⟨State.start_sound config pool ipPoolSize time timeNow, fun a => .inl (.inl ?_),
    fun s _ => .inl ?_, fun b x y _ link => absurd link.1 (dead x),
    fun b x _ link => absurd link.1 (dead x)⟩, State.start_strung config pool ipPoolSize time clock,
    fun s used => absurd (session s).1 used⟩
  · exact RadixTable.lookup_empty 3 (octets a)
  · have index : ((State.start config pool ipPoolSize time timeNow).tenancy.deed s).index = 0 :=
      (session s).2
    rw [index]
    rfl

/-- The head of the free list is opened, a session that is forwarded is not set up, and only
a session that kills itself is closed because it called back. -/
def BundleAction.Invoked (st : State) : BundleAction → Prop
  | .openSession s _ => s = st.sessionfree
  | .setup s _ => (st.session s).forwardtosession = 0
  | .shutdown _ _ _ _ termCause | .kill _ _ termCause => termCause ≠ some .callback
  | .aside next => Beside st next

/-- A master from its start on. -/
def tenantSystem : TransitionSystem State BundleAction where
  initial st := ∃ config pool ipPoolSize time timeNow, timeNow ≠ 0 ∧
    st = State.start config pool ipPoolSize time timeNow
  step st action next := next = action.perform st ∧ action.Invoked st

/-- The steps that keep the map in order. -/
def KeepsTenants (st : State) : BundleAction → Prop
  | .openSession s _ => s ≠ 0
  | .setup s _ => st.Awake ∧ MayInstall st s
  | .shutdown .. | .kill .. => st.Awake
  | .aside next => KeepsAddresses st next

theorem Tenanted.openSession (tenanted : Tenanted st) (t : Nat) (nonempty : st.sessionfree ≠ 0) :
    Tenanted (openSession st st.sessionfree t) := by
  have free : st.IsFree st.sessionfree := tenanted.strung.list.head_free nonempty
  refine ⟨tenanted.tenancy.openSession free.2.2 t, tenanted.strung.openSession t nonempty,
    fun x used => ?_⟩
  have highest : (Server.openSession st st.sessionfree t).highestSessionid =
      max st.highestSessionid st.sessionfree := rfl
  rw [highest]
  by_cases here : x = st.sessionfree
  · rw [here]
    exact le_max_right ..
  · refine le_trans (tenanted.numbered x ?_) (le_max_left ..)
    rw [openSession_session, Function.update_of_ne here, Function.update_apply] at used
    split at used
    · rename_i head
      rw [head]
      exact used
    · exact used

theorem Tenanted.beside (tenanted : Tenanted st) (beside : Beside st st')
    (keeps : KeepsAddresses st st') : Tenanted st' := by
  refine ⟨tenanted.tenancy.beside beside keeps, ?_, fun x used => ?_⟩
  · refine ⟨tenanted.strung.list.congr (beside.next 0) (fun s _ => beside.next s) fun s => ?_,
      fun s => ?_, beside.clock⟩
    · rw [State.IsFree, State.IsFree, beside.opened]
    · rw [beside.opened, beside.next]
      exact tenanted.strung.inUse s
  · rw [beside.highest]
    rw [beside.opened] at used
    exact tenanted.numbered x used

theorem Tenanted.perform (tenanted : Tenanted st) {action : BundleAction}
    (keeps : KeepsTenants st action) (invoked : action.Invoked st) :
    Tenanted (action.perform st) := by
  cases action with
  | openSession s t =>
      rw [show s = st.sessionfree from invoked] at keeps ⊢
      exact tenanted.openSession t keeps
  | setup s t => exact (tenanted.sessionsetup keeps.1 keeps.2 invoked t).2
  | shutdown s reason cdnResult cdnError termCause =>
      exact tenanted.sessionshutdown keeps invoked reason cdnResult cdnError
  | kill s reason termCause => exact tenanted.sessionkill keeps invoked reason
  | aside next => exact tenanted.beside invoked keeps

theorem tenanted_of_reachable (reached : tenantSystem.ReachableUnder KeepsTenants st) :
    Tenanted st := by
  induction reached with
  | initial start =>
      obtain ⟨config, pool, ipPoolSize, time, timeNow, clock, rfl⟩ := start
      exact State.start_tenanted config pool ipPoolSize time clock
  | step action _ keeps moves tenanted =>
      obtain ⟨rfl, invoked⟩ := moves
      exact tenanted.perform keeps invoked

/-- **Exclusive setup.** In every run in which no session kills itself for its address, every
session that is set up has the address to itself, and the free list and the map are in
order. -/
theorem setup_exclusive (reached : tenantSystem.ReachableUnder KeepsTenants st) (t : Nat)
    (invoked : (BundleAction.setup s t).Invoked st)
    (keeps : KeepsTenants st (.setup s t)) :
    SetUp st (sessionsetup st s t) s (setupReturns st s) :=
  ((tenanted_of_reachable reached).sessionsetup keeps.1 keeps.2 invoked t).1

/-- RADIUS gives a session an address. -/
def framedIp (st : State) (s : Nat) (ip : InAddr) : State :=
  st.setSession s fun session => { session with ip := ip, ipPoolIndex := -1 }

/-- A session that is in no bundle changes aside from the rest. -/
theorem setSession_beside {change : Session → Session} (unlinked : (st.session s).bundle = 0)
    (clock : st.timeNow ≠ 0) (next : (change (st.session s)).next = (st.session s).next)
    (opened : (change (st.session s)).opened = (st.session s).opened)
    (die : (change (st.session s)).die = (st.session s).die)
    (bundle : (change (st.session s)).bundle = (st.session s).bundle)
    (index : (change (st.session s)).ipPoolIndex = (st.session s).ipPoolIndex ∨
      (change (st.session s)).ipPoolIndex = -1) : Beside st (st.setSession s change) := by
  have frame {β : Type} (read : Session → β)
      (same : read (change (st.session s)) = read (st.session s)) (x : Nat) :
      read ((st.setSession s change).session x) = read (st.session x) :=
    State.setSession_frame read same x
  refine ⟨⟨fun _ => rfl, fun x => ?_⟩, rfl, rfl, clock, frame Session.next next,
    frame Session.opened opened, frame Session.die die, frame Session.bundle bundle, fun x => ?_⟩
  · by_cases here : x = s
    · have none : (st.setSession s change).roster.bundle x = 0 := by
        rw [here]
        exact (frame Session.bundle bundle s).trans unlinked
      refine .inl ⟨fun member => member.2 ?_, fun member => member.2 none⟩
      rw [here]
      exact unlinked
    · refine .inr ⟨frame Session.opened opened x, frame Session.die die x,
        frame Session.bundle bundle x, .inl ?_⟩
      exact congrArg Session.ip (State.setSession_other here _)
  · by_cases here : x = s
    · rw [here, State.setSession_same]
      exact index
    · rw [State.setSession_other here]
      exact .inl rfl

theorem framedIp_beside (unlinked : (st.session s).bundle = 0) (clock : st.timeNow ≠ 0)
    (ip : InAddr) : Beside st (framedIp st s ip) :=
  setSession_beside unlinked clock rfl rfl rfl rfl (.inr rfl)

theorem Tenanted.unnamed (tenanted : Tenanted st) (used : (st.session s).opened ≠ 0)
    (unaddressed : (st.session s).ip = 0) (a : InAddr) : lookupIpmap st.ipHash a ≠ s := by
  obtain ⟨some, fits, _⟩ := tenanted.strung.inUse s used
  intro named
  have cell : st.tenancy.cell a = s := named
  have tenant := tenanted.tenancy.cells a
  rw [cell] at tenant
  exact (tenant.resolve_left fun nobody => nobody.outside ⟨some, fits⟩).addressed unaddressed

theorem Tenanted.keepsAddresses (tenanted : Tenanted st) (used : (st.session s).opened ≠ 0)
    (unaddressed : (st.session s).ip = 0) (unlinked : (st.session s).bundle = 0)
    (change : Session → Session) : KeepsAddresses st (st.setSession s change) := by
  intro x _ seated
  have other : x ≠ s := by
    rintro rfl
    rcases seated with member | ⟨a, named⟩
    · exact member unlinked
    · exact tenanted.unnamed used unaddressed a named
  rw [State.setSession_other other]
  exact ⟨rfl, rfl⟩

theorem framed_may {ip : InAddr} (live : st.roster.Live s) (alone : ¬ WantsBundle st s)
    (unlinked : (st.session s).bundle = 0) (addressed : (st.session s).ip = ip) (nonzero : ip ≠ 0)
    (static : (st.session s).ipPoolIndex = -1) (unrouted : (st.session s).route = [])
    (maps : (routePatch ip 0 0).covers ip = true)
    (suicide : st.config.suicideDuplicateIp = false) : MayInstall st s := by
  have joins : joinsBundle st s = none := if_neg alone
  have bundle : bundleFor st s = some 0 := by
    rw [bundleFor, if_neg alone, unlinked]
  have given : addressFor st s = ip := by
    rw [addressFor, joins]
    dsimp only
    rw [ownAddress, addressed, if_neg nonzero]
  have deed : (st.session s).deed = ⟨-1, []⟩ := by
    rw [Session.deed, static, unrouted]
  have none : ∀ {b : Nat}, b ≠ 0 → bundleFor st s ≠ some b := by
    intro b real found
    rw [bundle] at found
    exact real (Option.some.inj found).symm
  refine ⟨⟨live, fun b found => ?_, fun b real found => absurd found (none real),
    fun b real found => absurd found (none real)⟩, fun b _ => ⟨live, fun unaddressed => ?_,
      fun _ => ?_, fun some => absurd joins some, fun b found => ?_⟩, fun suicides => ?_,
        fun b real found => absurd found (none real)⟩
  · rw [joins] at found
    cases found
  · exact absurd (addressed.symm.trans unaddressed) nonzero
  · rw [given, deed]
    exact .inr ⟨rfl, maps⟩
  · rw [joins] at found
    cases found
  · rw [suicide] at suicides
    cases suicides

/-- A server on which a session is open and has got its address from RADIUS. -/
def framedState (suicide : Bool) : State :=
  framedIp (openSession (State.start { Config.zero with suicideDuplicateIp := suicide }
    (fun _ => .zero) 0 0 1) 1 1) 1 10

theorem framedState_reachable {guard : State → BundleAction → Prop} (suicide : Bool)
    (opens : ∀ st, guard st (.openSession 1 1))
    (writes : ∀ st, (st.session 1).bundle = 0 → (∀ a, lookupIpmap st.ipHash a = 0) →
      guard st (.aside (framedIp st 1 10))) :
    tenantSystem.ReachableUnder guard (framedState suicide) := by
  have start : tenantSystem.ReachableUnder guard (State.start
      { Config.zero with suicideDuplicateIp := suicide } (fun _ => .zero) 0 0 1) :=
    .initial ⟨_, _, _, _, _, Nat.one_ne_zero, rfl⟩
  have opened : tenantSystem.ReachableUnder guard (openSession (State.start
      { Config.zero with suicideDuplicateIp := suicide } (fun _ => .zero) 0 0 1) 1 1) :=
    .step (.openSession 1 1) start (opens _) ⟨rfl, rfl⟩
  have unlinked : ((openSession (State.start { Config.zero with suicideDuplicateIp := suicide }
      (fun _ => .zero) 0 0 1) 1 1).session 1).bundle = 0 := by
    rw [openSession_session, Function.update_self]
    rfl
  refine .step (.aside _) opened (writes _ unlinked fun a => ?_) ⟨rfl, ?_⟩
  · exact RadixTable.lookup_empty 3 (octets a)
  · exact framedIp_beside unlinked Nat.one_ne_zero 10

theorem framedState_installs :
    ((framedState false).session 1).forwardtosession = 0 ∧ (framedState false).Awake ∧
      MayInstall (framedState false) 1 := by
  have alone : ¬ WantsBundle (framedState false) 1 := by decide
  have plain : ((framedState false).session 1).bundle = 0 ∧
      ((framedState false).session 1).ip = 10 ∧ ((framedState false).session 1).ipPoolIndex = -1 ∧
        ((framedState false).session 1).route = [] := by
    rw [framedState, framedIp, State.setSession_same, openSession_session, Function.update_self]
    exact ⟨rfl, rfl, rfl, rfl⟩
  have awake : (framedState false).Awake := by
    rw [State.Awake, show (framedState false).time = 0 from rfl]
    decide
  have live : ((framedState false).session 1).opened ≠ 0 ∧
      ((framedState false).session 1).die = 0 := by decide
  have unforwarded : ((framedState false).session 1).forwardtosession = 0 := by decide
  exact ⟨unforwarded, awake, framed_may live alone plain.1 plain.2.1 (by decide) plain.2.2.1
    plain.2.2.2 (by decide) rfl⟩

theorem framedState_kept : tenantSystem.ReachableUnder KeepsTenants (framedState false) := by
  refine framedState_reachable false (fun _ => Nat.one_ne_zero) fun st unlinked unmapped => ?_
  intro x _ seated
  have other : x ≠ 1 := by
    rintro rfl
    rcases seated with member | ⟨a, named⟩
    · exact member unlinked
    · rw [unmapped a] at named
      exact nomatch named
  rw [framedIp, State.setSession_other other]
  exact ⟨rfl, rfl⟩

/-- The first session is set up. -/
theorem setup_exclusive_framed :
    SetUp (framedState false) (sessionsetup (framedState false) 1 1) 1
      (setupReturns (framedState false) 1) :=
  setup_exclusive framedState_kept 1 framedState_installs.1 framedState_installs.2

/-- A second session has got the address of the first, which is set up. -/
def twinState : State :=
  framedIp (openSession (sessionsetup (framedState true) 1 1) 2 1) 2 10

theorem twinState_reachable : tenantSystem.Reachable twinState := by
  have first : tenantSystem.Reachable (sessionsetup (framedState true) 1 1) := by
    refine .step (.setup 1 1) (framedState_reachable true (fun _ => trivial)
      fun _ _ _ => trivial) trivial ⟨rfl, ?_⟩
    change ((framedState true).session 1).forwardtosession = 0
    decide
  have free : 2 = (sessionsetup (framedState true) 1 1).sessionfree := by decide
  have unlinked :
      ((openSession (sessionsetup (framedState true) 1 1) 2 1).session 2).bundle = 0 := by
    decide
  have clock : (openSession (sessionsetup (framedState true) 1 1) 2 1).timeNow ≠ 0 := by
    decide
  exact .step (.aside twinState) (.step (.openSession 2 1) first trivial ⟨rfl, free⟩) trivial
    ⟨rfl, framedIp_beside unlinked clock 10⟩

/-- A second session that gets the address of the first kills itself and is set up. -/
theorem setup_suicides :
    ¬ ∀ st, tenantSystem.Reachable st → ∀ s t, (st.session s).opened ≠ 0 →
      (st.session s).die = 0 → (BundleAction.setup s t).Invoked st →
        SetUp st (sessionsetup st s t) s (setupReturns st s) := by
  intro exclusive
  have live : (twinState.session 2).opened ≠ 0 ∧ (twinState.session 2).die = 0 := by
    decide
  have invoked : (BundleAction.setup 2 1).Invoked twinState := by
    change (twinState.session 2).forwardtosession = 0
    decide
  have returns : setupReturns twinState 2 = true := by decide
  have closed : ((sessionsetup twinState 2 1).session 2).opened = 0 := by decide
  have opened := (exclusive twinState twinState_reachable 2 1 live.1 live.2 invoked).opened returns
  exact opened closed

end L2tpns.Server
