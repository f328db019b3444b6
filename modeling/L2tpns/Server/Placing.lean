import L2tpns.Server.AddressChoice
import L2tpns.Server.Tenancy

/-! # The bundle and the address of a session that is set up

A setup that goes on has given the session its bundle and its address
(`L2tpns.Server.sessionsetup_spec`). Nothing else has changed, and the map is still sound
(`L2tpns.Server.Tenancy.Sound.place`).
-/

namespace L2tpns.Server

open Foundation Function

variable {st st' st'' : State} {s : Nat}

/-- What of a session does not depend on its place. -/
structure Subscriber where
  opened : Nat
  die : Nat
  next : Nat
  deed : Deed
  user : List UInt8
  walledGarden : Bool
  forwardtosession : Nat

def Session.subscriber (session : Session) : Subscriber :=
  ⟨session.opened, session.die, session.next, session.deed, session.user, session.walledGarden,
    session.forwardtosession⟩

/-- Only the place of a session, and the bundles, have changed. -/
structure Seats (s : Nat) (st st' : State) : Prop where
  others : ∀ x, x ≠ s → st'.session x = st.session x
  own : (st'.session s).subscriber = (st.session s).subscriber
  config : st'.config = st.config
  time : st'.time = st.time
  timeNow : st'.timeNow = st.timeNow
  highest : st'.highestSessionid = st.highestSessionid
  pool : st'.ipAddressPool = st.ipAddressPool
  size : st'.ipPoolSize = st.ipPoolSize
  ipHash : st'.ipHash = st.ipHash

namespace Seats

theorem refl (st : State) : Seats s st st :=
  ⟨fun _ _ => rfl, rfl, rfl, rfl, rfl, rfl, rfl, rfl, rfl⟩

theorem trans (first : Seats s st st') (second : Seats s st' st'') : Seats s st st'' :=
  ⟨fun x other => (second.others x other).trans (first.others x other),
    second.own.trans first.own, second.config.trans first.config, second.time.trans first.time,
    second.timeNow.trans first.timeNow, second.highest.trans first.highest,
    second.pool.trans first.pool, second.size.trans first.size, second.ipHash.trans first.ipHash⟩

theorem setBundle (b : Nat) (change : Bundle → Bundle) : Seats s st (st.setBundle b change) :=
  ⟨fun _ _ => rfl, rfl, rfl, rfl, rfl, rfl, rfl, rfl, rfl⟩

theorem emit (effect : Effect) : Seats s st (st.emit effect) :=
  ⟨fun _ _ => rfl, rfl, rfl, rfl, rfl, rfl, rfl, rfl, rfl⟩

theorem setSession {change : Session → Session}
    (same : (change (st.session s)).subscriber = (st.session s).subscriber) :
    Seats s st (st.setSession s change) := by
  refine ⟨fun x other => State.setSession_other other _, ?_, rfl, rfl, rfl, rfl, rfl, rfl, rfl⟩
  rw [State.setSession_same]
  exact same

end Seats

theorem newBundle_seats (s : Nat) : Seats s st (newBundle st).1 := by
  rw [newBundle]
  split
  · exact ⟨fun _ _ => rfl, rfl, rfl, rfl, rfl, rfl, rfl, rfl, rfl⟩
  · exact Seats.refl st

theorem joinBundle_seats (s : Nat) : Seats s st (joinBundle st s).1 := by
  simp only [joinBundle]
  split
  · split
    · exact Seats.refl st
    · dsimp only
      refine Seats.trans ?_ (Seats.setBundle ..)
      exact Seats.setSession rfl
  · split
    · exact newBundle_seats s
    · dsimp only
      refine Seats.trans ((newBundle_seats s).trans ?_) (Seats.setBundle ..)
      exact Seats.setSession rfl

theorem setupBundle_seats (goesOn : (setupBundle st s).2 = true) :
    Seats s st (setupBundle st s).1 := by
  simp only [setupBundle] at goesOn ⊢
  by_cases wants : 0 < (st.session s).mrru ∧ (st.session s).bundle = 0
  · rw [if_pos wants] at goesOn ⊢
    by_cases joined : 0 < (joinBundle st s).2
    · rw [if_pos joined]
      exact (joinBundle_seats s).trans (Seats.emit _)
    · rw [if_neg joined] at goesOn
      cases goesOn
  · rw [if_neg wants]
    exact Seats.refl st

theorem Seats.poolEntry (seats : Seats s st st') : poolEntry st' s = poolEntry st s := by
  have user : (st'.session s).user = (st.session s).user := congrArg Subscriber.user seats.own
  have walled : (st'.session s).walledGarden = (st.session s).walledGarden :=
    congrArg Subscriber.walledGarden seats.own
  rw [Server.poolEntry, bestAddress_congr seats.pool, user, walled, seats.size, seats.timeNow]
  rfl

theorem poolAddress_nonzero {best : Nat} (found : poolEntry st s = some best) :
    poolAddress st s = (st.ipAddressPool best).address ∧ poolAddress st s ≠ 0 := by
  have addressed := (poolEntry_unassigned found).2.2.1
  have address : poolAddress st s = (st.ipAddressPool best).address := by
    rw [poolEntry] at found
    rw [poolAddress, found]
  rw [address]
  exact ⟨rfl, addressed⟩

/-- How a session gets an address: it has one, or gets one of the pool. -/
inductive Addressed (st : State) (s : Nat) : State → Bool → Prop where
  | has (addressed : (st.session s).ip ≠ 0) : Addressed st s st true
  | gets (best : Nat) (unaddressed : (st.session s).ip = 0) (found : poolEntry st s = some best)
      (address : (st.ipAddressPool best).address ≠ 0) (change : IpPool → IpPool) :
      Addressed st s ((st.setSession s fun session =>
        { session with ip := (st.ipAddressPool best).address, ipPoolIndex := best }).setPool best
          change) true
  | refuses (unaddressed : (st.session s).ip = 0) (none : poolEntry st s = none) :
      Addressed st s (sessionshutdown st s "No IP addresses available." 2 7
        (some .serviceUnavailable)) false

theorem setupAddress_spec (st : State) (s : Nat) :
    Addressed st s (setupAddress st s).1 (setupAddress st s).2 := by
  simp only [setupAddress]
  by_cases unaddressed : (st.session s).ip = 0
  · rw [if_pos unaddressed]
    cases found : poolEntry st s with
    | none =>
        have none : assignIpAddress st s = st := by
          rw [poolEntry] at found
          simp only [assignIpAddress, found]
        rw [none, if_pos unaddressed]
        exact .refuses unaddressed found
    | some best =>
        have addressed := (poolEntry_unassigned found).2.2.1
        obtain ⟨change, given⟩ : ∃ change, assignIpAddress st s =
            (st.setSession s fun session =>
              { session with ip := (st.ipAddressPool best).address, ipPoolIndex := best }).setPool
                best change := by
          rw [poolEntry] at found
          simp only [assignIpAddress, found]
          exact ⟨_, rfl⟩
        have own : ((assignIpAddress st s).session s).ip = (st.ipAddressPool best).address := by
          rw [given, State.setPool_session, State.setSession_same]
        rw [own, if_neg addressed, given]
        exact .gets best unaddressed found addressed change
  · rw [if_neg unaddressed]
    exact .has unaddressed

theorem setupAddress_unaddressed (none : ownAddress st s = 0) :
    setupAddress st s =
      (sessionshutdown st s "No IP addresses available." 2 7 (some .serviceUnavailable),
        false) := by
  have spec := setupAddress_spec st s
  generalize setupAddress st s = addressed at spec ⊢
  obtain ⟨st', goesOn⟩ := addressed
  dsimp only at spec
  rw [ownAddress] at none
  cases spec with
  | has addressed => exact absurd ((if_neg addressed).symm.trans none) addressed
  | gets best unaddressed found =>
      rw [if_pos unaddressed] at none
      exact absurd none (poolAddress_nonzero found).2
  | refuses => rfl

/-- Whether `sessionsetup` returns 1. -/
def setupReturns (st : State) (s : Nat) : Bool :=
  (setupBundle st s).2 && (setupAddress (setupBundle st s).1 s).2

/-- The list of the links of the bundle of a session that is set up. -/
inductive Seat (st : State) (s b : Nat) : Links → Prop where
  | keeps (same : (st.session s).bundle = b) (alone : joinsBundle st s = none) :
      Seat st s b (st.roster.links b)
  | joins (unlinked : (st.session s).bundle = 0) (real : b ≠ 0)
      (isOpen : (st.bundle b).isOpen = true) (joins : joinsBundle st s = some b) :
      Seat st s b ⟨true, (st.bundle b).numOfLinks + 1,
        Function.update (st.bundle b).members (st.bundle b).numOfLinks s⟩
  | opens (unlinked : (st.session s).bundle = 0) (real : b ≠ 0)
      (free : (st.bundle b).isOpen = false) (alone : joinsBundle st s = none) :
      Seat st s b ⟨true, 1, Function.update (st.bundle b).members 0 s⟩

/-- The pool index and the routes of a session that is set up. -/
inductive Deeded (st : State) (s : Nat) : Deed → Prop where
  | keeps (addressed : (st.session s).ip ≠ 0 ∨ joinsBundle st s ≠ none) :
      Deeded st s (st.session s).deed
  | gets (best : Nat) (unaddressed : (st.session s).ip = 0) (alone : joinsBundle st s = none)
      (found : poolEntry st s = some best) : Deeded st s ⟨best, (st.session s).route⟩

/-- A session has got its bundle and its address, and nothing else has changed. -/
structure Placed (st placed : State) (s b : Nat) (links : Links) : Prop where
  known : bundleFor st s = some b
  address : addressFor st s ≠ 0
  seat : Seat st s b links
  roster : placed.roster = st.roster.withLink s b (addressFor st s) links
  sound : placed.roster.Sound
  others : ∀ x, x ≠ s → placed.session x = st.session x
  own : ∃ deed, Deeded st s deed ∧
    (placed.session s).subscriber = { (st.session s).subscriber with deed := deed }
  config : placed.config = st.config
  time : placed.time = st.time
  timeNow : placed.timeNow = st.timeNow
  highest : placed.highestSessionid = st.highestSessionid
  ipHash : placed.ipHash = st.ipHash

/-- What a setup does: it shuts the session down, or goes on once it is placed. -/
inductive SetsUp (st : State) (s : Nat) : State → Bool → Prop where
  | refused (reason : String) (cdnResult cdnError : Nat) :
      SetsUp st s (sessionshutdown st s reason cdnResult cdnError (some .serviceUnavailable)) false
  | granted (placed : State) (b : Nat) (links : Links) (facts : Placed st placed s b links) :
      SetsUp st s (setupNetwork (setupRoutes
        (zapSessions placed s (addressFor st s) 1 st.highestSessionid) s) s) true

/-- A session that has its bundle gets its address. -/
theorem Seats.placed {b : Nat} {links : Links} {bundled addressed : State} {t : Nat}
    (seats : Seats s st bundled) (known : bundleFor st s = some b) (seat : Seat st s b links)
    (roster : bundled.roster = st.roster.withLink s b (bundled.session s).ip links)
    (address : ownAddress bundled s = addressFor st s)
    (kept : (bundled.session s).ip ≠ 0 → (st.session s).ip ≠ 0 ∨ joinsBundle st s ≠ none)
    (unaddressed : (bundled.session s).ip = 0 → (st.session s).ip = 0 ∧ joinsBundle st s = none)
    (sound : (st.roster.withLink s b (addressFor st s) links).Sound)
    (nonzero : addressFor st s ≠ 0) (spec : Addressed bundled s addressed true) :
    Placed st (addressed.setSession s fun session => { session with tunnel := t }) s b links := by
  have tunneled : ∀ st : State,
      (st.setSession s fun session => { session with tunnel := t }).roster = st.roster :=
    fun st => State.setSession_sameRoster rfl rfl rfl rfl
  have others : ∀ (st : State) (change : Session → Session) (x : Nat), x ≠ s →
      (st.setSession s change).session x = st.session x :=
    fun st change x other => State.setSession_other other change
  cases spec with
  | has addressed =>
      have ip : (bundled.session s).ip = addressFor st s := by
        rw [← address, ownAddress, if_neg addressed]
      have same : bundled.roster = st.roster.withLink s b (addressFor st s) links := by
        rw [roster, ip]
      refine ⟨known, nonzero, seat, (tunneled _).trans same, ?_, fun x other => ?_, ?_,
        seats.config, seats.time, seats.timeNow, seats.highest, seats.ipHash⟩
      · rw [tunneled, same]
        exact sound
      · rw [others _ _ x other, seats.others x other]
      · refine ⟨_, .keeps (kept addressed), ?_⟩
        rw [State.setSession_same]
        exact seats.own
  | gets best none found addressed change =>
      have given := poolAddress_nonzero found
      have ip : (bundled.ipAddressPool best).address = addressFor st s := by
        rw [← given.1, ← address, ownAddress, if_pos none]
      have same : ((bundled.setSession s fun session =>
          { session with ip := (bundled.ipAddressPool best).address, ipPoolIndex := best }).setPool
            best change).roster = st.roster.withLink s b (addressFor st s) links := by
        have again : ∀ {β : Type} (f : Nat → β) (first second : β),
            update (update f s first) s second = update f s second :=
          fun f first second => update_idem ..
        have bundle : bundled.roster.bundle s = b := by
          rw [roster]
          exact update_self ..
        rw [State.setPool_roster, State.setSession_roster rfl rfl]
        dsimp only
        rw [show (bundled.session s).bundle = b from bundle, ip, roster, Roster.withLink,
          Roster.withLink]
        dsimp only
        rw [again, again]
      refine ⟨known, nonzero, seat, (tunneled _).trans same, ?_, fun x other => ?_, ?_,
        seats.config, seats.time, seats.timeNow, seats.highest, seats.ipHash⟩
      · rw [tunneled, same]
        exact sound
      · rw [others _ _ x other, State.setPool_session, others _ _ x other, seats.others x other]
      · obtain ⟨bare, alone⟩ := unaddressed none
        refine ⟨_, .gets best bare alone (seats.poolEntry ▸ found), ?_⟩
        rw [State.setSession_same, State.setPool_session, State.setSession_same]
        have route : (bundled.session s).route = (st.session s).route :=
          congrArg (fun own : Subscriber => own.deed.route) seats.own
        rw [← seats.own, ← route]
        rfl

theorem Roster.withLink_self (roster : Roster) (s : Nat) (ip : InAddr) :
    roster.withLink s (roster.bundle s) ip (roster.links (roster.bundle s)) =
      { roster with ip := update roster.ip s ip } := by
  have same {β : Type} (f : Nat → β) (x : Nat) : update f x (f x) = f :=
    update_eq_self ..
  rw [Roster.withLink, same, same]

/-- A setup that is allowed shuts the session down or goes on with a session that is placed. -/
theorem sessionsetup_spec (sound : st.roster.Sound) (may : MaySetUp st s) (t : Nat) :
    SetsUp st s (sessionsetup st s t) (setupReturns st s) := by
  have spec := setupBundle_spec st s
  have seats := @setupBundle_seats st s
  simp only [sessionsetup, setupReturns]
  generalize setupBundle st s = bundled at spec seats ⊢
  obtain ⟨st', goesOn⟩ := bundled
  dsimp only at spec seats ⊢
  have goes {b : Nat} {links : Links} (known : bundleFor st s = some b)
      (seats : Seats s st st') (seat : Seat st s b links)
      (roster : st'.roster = st.roster.withLink s b (st'.session s).ip links)
      (address : ownAddress st' s = addressFor st s)
      (kept : (st'.session s).ip ≠ 0 → (st.session s).ip ≠ 0 ∨ joinsBundle st s ≠ none)
      (unaddressed : (st'.session s).ip = 0 → (st.session s).ip = 0 ∧ joinsBundle st s = none)
      (sound : addressFor st s ≠ 0 → (st.roster.withLink s b (addressFor st s) links).Sound)
      (alone : addressFor st s = 0 → st' = st) :
      SetsUp st s (if (setupAddress st' s).2 then
        setupNetwork (setupRoutes (zapSessions
          ((setupAddress st' s).1.setSession s fun session => { session with tunnel := t }) s
          (((setupAddress st' s).1.setSession s fun session =>
            { session with tunnel := t }).session s).ip 1
          ((setupAddress st' s).1.setSession s fun session =>
            { session with tunnel := t }).highestSessionid) s) s
        else (setupAddress st' s).1) (setupAddress st' s).2 := by
    have spec := setupAddress_spec st' s
    generalize setupAddress st' s = addressed at spec ⊢
    obtain ⟨st'', goesOn⟩ := addressed
    dsimp only at spec ⊢
    cases goesOn with
    | false =>
        rw [if_neg (by simp)]
        cases spec with
        | refuses none free =>
            have zero : addressFor st s = 0 := by
              rw [← address, ownAddress, if_pos none, poolAddress]
              rw [poolEntry] at free
              rw [free]
            rw [alone zero]
            exact .refused ..
    | true =>
        have nonzero : addressFor st s ≠ 0 := by
          rw [← address]
          cases spec with
          | has addressed =>
              rw [ownAddress, if_neg addressed]
              exact addressed
          | gets best none found _ _ =>
              rw [ownAddress, if_pos none]
              exact (poolAddress_nonzero found).2
        have placed := seats.placed (t := t) known seat roster address kept unaddressed
          (sound nonzero) nonzero spec
        have ip : ((st''.setSession s fun session => { session with tunnel := t }).session s).ip =
            addressFor st s :=
          (congrFun (congrArg Roster.ip placed.roster) s).trans (update_self ..)
        rw [if_pos rfl, ip, placed.highest]
        exact .granted _ b links placed
  cases spec with
  | refuses unlinked =>
      rw [if_neg (by simp)]
      exact .refused ..
  | keeps known alone =>
      have own : addressFor st s = ownAddress st s := by rw [addressFor, alone]
      have address : (st.session s).ip ≠ 0 → addressFor st s ≠ 0 := by
        intro addressed
        rw [own, ownAddress, if_neg addressed]
        exact addressed
      rw [if_pos rfl, Bool.true_and]
      refine goes known (seats rfl) (.keeps rfl alone) ?_ own.symm .inl (fun none => ⟨none, alone⟩)
        (fun _ => ?_) fun _ => rfl
      · refine Eq.trans ?_ (Roster.withLink_self st.roster s _).symm
        exact congrArg (fun ip => { st.roster with ip := ip })
          (update_eq_self s st.roster.ip).symm
      · rw [own]
        refine cast (congrArg Roster.Sound ?_) (sound.withAddress may.live)
        exact (Roster.withLink_self st.roster s _).symm
  | joins b unlinked real isOpen joins known books roster =>
      have listed := sound.listed b isOpen
      have room := may.room b joins
      have twelve : maxBundleSes = 12 := rfl
      have count : ((st.bundle b).numOfLinks + 1) % 2 ^ 8 = (st.bundle b).numOfLinks + 1 := by omega
      have address := sound.firstAddress isOpen
      have own : addressFor st s = (st.session ((st.bundle b).members 0)).ip := by
        rw [addressFor, joins]
      rw [count] at roster
      have ip : (st'.session s).ip = addressFor st s :=
        ((congrFun (congrArg Roster.ip roster) s).trans (update_self ..)).trans own.symm
      rw [← own] at address roster
      rw [if_pos rfl, Bool.true_and]
      refine goes known (seats rfl) (.joins unlinked real isOpen joins) ?_ ?_ ?_ ?_ ?_ ?_
      · rw [ip]
        exact roster
      · rw [ownAddress, ip, if_neg address]
      · rw [joins]
        exact fun _ => .inr (by simp)
      · rw [ip]
        exact fun none => absurd none address
      · exact fun _ => sound.withLink real may.live unlinked address rfl (Nat.succ_pos _) room
          (listed.lists.append fun link => real (link.2.symm.trans unlinked))
      · exact fun none => absurd none address
  | opens b unlinked real free alone known books address roster =>
      have own : addressFor st s = ownAddress st s := by rw [addressFor, alone]
      have nonzero := may.address b real known
      have none := sound.free b real free
      have ip : (st'.session s).ip = (st.session s).ip :=
        (congrFun (congrArg Roster.ip roster) s).trans (update_self ..)
      rw [if_pos rfl, Bool.true_and]
      refine goes known (seats rfl) (.opens unlinked real free alone) ?_ (address.trans own.symm)
        ?_ ?_ ?_ ?_
      · rw [ip]
        exact roster
      · rw [ip]
        exact .inl
      · rw [ip]
        exact fun none => ⟨none, alone⟩
      · intro _
        have one : 1 ≤ maxBundleSes := by decide
        refine sound.withLink real may.live unlinked nonzero rfl le_rfl one ?_
        refine (Lists.singleton _ s).congr fun x => ?_
        exact ⟨fun either => either.resolve_left (none x), .inr⟩
      · exact fun zero => absurd zero nonzero

/-- A session that is placed has an address that it maps, and one that joins a bundle brings
its routes and no cells. -/
structure MayBePlaced (st : State) (s : Nat) : Prop where
  live : st.roster.Live s
  index : (st.session s).ip = 0 → joinsBundle st s = none →
    ∀ best, poolEntry st s = some best → Nobody (pooled best)
  maps : (st.session s).ip ≠ 0 ∨ joinsBundle st s ≠ none →
    (st.session s).deed.Maps (addressFor st s) (addressFor st s)
  unmapped : joinsBundle st s ≠ none → ∀ a, lookupIpmap st.ipHash a ≠ s
  routes : ∀ b, joinsBundle st s = some b → ∀ a, Routed (st.session s).route a ↔
    Routed (st.session ((st.bundle b).members 0)).route a

section Placed

variable {placed : State} {b : Nat} {links : Links} (facts : Placed st placed s b links)
include facts

theorem Placed.elsewhere : Roster.Elsewhere st.roster placed.roster s := by
  rw [facts.roster]
  exact ⟨fun _ _ => rfl, fun _ _ => rfl, fun _ other => update_of_ne other ..,
    fun _ other => update_of_ne other ..⟩

theorem Placed.ip : placed.roster.ip s = addressFor st s := by
  rw [facts.roster]
  exact update_self ..

theorem Placed.bundle : placed.roster.bundle s = b := by
  rw [facts.roster]
  exact update_self ..

theorem Placed.links_self : placed.roster.links b = links := by
  rw [facts.roster]
  exact update_self ..

theorem Placed.links_other {x : Nat} (other : x ≠ b) :
    placed.roster.links x = st.roster.links x := by
  rw [facts.roster]
  exact update_of_ne other ..

theorem Placed.addressed (addressed : (st.session s).ip ≠ 0) (alone : joinsBundle st s = none) :
    addressFor st s = (st.session s).ip ∧ placed.tenancy.deed s = st.tenancy.deed s := by
  obtain ⟨deed, given, own⟩ := facts.own
  have same : placed.tenancy.deed s = deed := congrArg Subscriber.deed own
  refine ⟨?_, ?_⟩
  · rw [addressFor, alone]
    exact if_neg addressed
  · rw [same]
    cases given with
    | keeps _ => rfl
    | gets _ unaddressed => exact absurd unaddressed addressed

theorem Placed.route : (placed.tenancy.deed s).route = (st.session s).route := by
  obtain ⟨deed, given, own⟩ := facts.own
  have same : placed.tenancy.deed s = deed := congrArg Subscriber.deed own
  rw [same]
  cases given with
  | keeps _ | gets _ => rfl

theorem Placed.maps (may : MayBePlaced st s) :
    (placed.tenancy.deed s).Maps (addressFor st s) (addressFor st s) := by
  obtain ⟨deed, given, own⟩ := facts.own
  have same : placed.tenancy.deed s = deed := congrArg Subscriber.deed own
  rw [same]
  cases given with
  | keeps addressed => exact may.maps addressed
  | gets best =>
      right
      rw [if_neg]
      exact fun static : (best : Int) = -1 => by omega

theorem Placed.alike (sound : st.tenancy.Sound) (may : MayBePlaced st s) {x : Nat} (real : b ≠ 0)
    (link : st.roster.LinkOf b x) :
    addressFor st s = (st.session x).ip ∧
      ∀ a, Routed (st.session s).route a ↔ Routed (st.session x).route a := by
  cases facts.seat with
  | keeps same alone =>
      have own : st.roster.LinkOf b s := ⟨may.live, same⟩
      have addressed : (st.session s).ip ≠ 0 :=
        sound.roster.addressed s may.live (fun none => real (same.symm.trans none))
      rw [(facts.addressed addressed alone).1]
      exact sound.alike b s x real own link
  | joins _ _ isOpen joins =>
      have listed := sound.roster.listed b isOpen
      have first : st.roster.LinkOf b ((st.bundle b).members 0) := listed.lists.holds listed.some
      obtain ⟨ip, routes⟩ := sound.alike b _ x real first link
      refine ⟨?_, fun a => (may.routes b joins a).trans (routes a)⟩
      rw [addressFor, joins]
      exact ip
  | opens _ _ free => exact absurd link (sound.roster.free b real free x)

theorem Placed.firstStays (sound : st.tenancy.Sound) {x : Nat} (live : st.roster.Live x)
    (member : st.roster.bundle x ≠ 0)
    (first : (st.roster.links (st.roster.bundle x)).members 0 = x) :
    (placed.roster.links (st.roster.bundle x)).members 0 = x := by
  by_cases same : st.roster.bundle x = b
  · rw [same] at first member ⊢
    rw [facts.links_self]
    cases facts.seat with
    | keeps => exact first
    | joins _ _ isOpen =>
        have some : 1 ≤ (st.bundle b).numOfLinks := (sound.roster.listed b isOpen).some
        exact (update_of_ne (Nat.ne_of_lt some) ..).trans first
    | opens _ _ free => exact absurd ⟨live, same⟩ (sound.roster.free b member free x)
  · rw [facts.links_other same]
    exact first

theorem Placed.tenant (may : MayBePlaced st s) {a : InAddr} (named : lookupIpmap st.ipHash a = s)
    (tenant : st.tenancy.Tenant s a) : placed.tenancy.Tenant s a := by
  have addressed : (st.session s).ip ≠ 0 := tenant.addressed
  have ip : placed.tenancy.roster.ip s = addressFor st s := facts.ip
  have bundle : placed.tenancy.roster.bundle s = b := facts.bundle
  have links : placed.tenancy.roster.links b = links := facts.links_self
  have live : placed.tenancy.roster.Live s := by
    rw [State.tenancy_roster, facts.roster]
    exact may.live
  have alone : joinsBundle st s = none := by
    by_contra joins
    exact may.unmapped joins a named
  obtain ⟨same, deed⟩ := facts.addressed addressed alone
  refine ⟨live, ?_, ?_, ?_⟩
  · rw [ip]
    exact facts.address
  · rw [ip, deed, same]
    exact tenant.maps
  · rw [bundle, links]
    intro real
    cases facts.seat with
    | keeps own _ =>
        have first := tenant.first
        rw [show st.tenancy.roster.bundle s = b from own] at first
        exact first real
    | joins _ _ _ joins =>
        rw [alone] at joins
        exact nomatch joins
    | opens =>
        dsimp only
        exact update_self ..

/-- The map is sound when a session is placed. -/
theorem Tenancy.Sound.place (sound : st.tenancy.Sound) (may : MayBePlaced st s) :
    placed.tenancy.Sound := by
  have elsewhere : Roster.Elsewhere st.tenancy.roster placed.tenancy.roster s := facts.elsewhere
  have deeds : ∀ x, x ≠ s → placed.tenancy.deed x = st.tenancy.deed x :=
    fun x other => congrArg Session.deed (facts.others x other)
  have cell : placed.tenancy.cell = st.tenancy.cell := congrArg lookupIpmap facts.ipHash
  have ip : placed.tenancy.roster.ip s = addressFor st s := facts.ip
  have like : ∀ b' x, b' ≠ 0 → placed.tenancy.roster.LinkOf b' s → x ≠ s →
      placed.tenancy.roster.LinkOf b' x →
      placed.tenancy.roster.ip s = placed.tenancy.roster.ip x ∧
        ∀ a, Routed (placed.tenancy.deed s).route a ↔ Routed (placed.tenancy.deed x).route a := by
    intro b' x real own other link
    have same : b' = b := own.2.symm.trans facts.bundle
    rw [same] at real link
    rw [ip, facts.route, deeds x other, elsewhere.ip x other]
    exact facts.alike sound may real ((elsewhere.linkOf other).mp link)
  refine ⟨facts.sound, fun a => ?_, fun x indexed => ?_, fun b' x y real first second => ?_,
    fun b' x real link => ?_⟩
  · rw [cell]
    refine (sound.cells a).imp_right fun tenant => ?_
    by_cases here : st.tenancy.cell a = s
    · rw [here] at tenant ⊢
      exact facts.tenant may here tenant
    · exact tenant.elsewhere here elsewhere (deeds _ here) fun member =>
        facts.firstStays sound tenant.live member (tenant.first member)
  · by_cases here : x = s
    · rw [here] at indexed ⊢
      obtain ⟨deed, given, own⟩ := facts.own
      have same : placed.tenancy.deed s = deed := congrArg Subscriber.deed own
      rw [same] at indexed ⊢
      cases given with
      | keeps _ => exact sound.indexes s indexed
      | gets best unaddressed alone found => exact may.index unaddressed alone best found
    · rw [deeds x here] at indexed ⊢
      exact sound.indexes x indexed
  · by_cases here : x = s
    · subst here
      by_cases there : y = x
      · rw [there]
        exact ⟨rfl, fun _ => Iff.rfl⟩
      · exact like b' y real first there second
    · by_cases there : y = s
      · subst there
        obtain ⟨ip, routes⟩ := like b' x real second here first
        exact ⟨ip.symm, fun a => (routes a).symm⟩
      · rw [deeds x here, deeds y there, elsewhere.ip x here, elsewhere.ip y there]
        exact sound.alike b' x y real ((elsewhere.linkOf here).mp first)
          ((elsewhere.linkOf there).mp second)
  · by_cases here : x = s
    · rw [here, ip]
      exact facts.maps may
    · rw [deeds x here, elsewhere.ip x here]
      exact sound.own b' x real ((elsewhere.linkOf here).mp link)

end Placed

end L2tpns.Server
