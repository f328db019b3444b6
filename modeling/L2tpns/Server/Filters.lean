import L2tpns.Foundation.Tally
import L2tpns.Server.Load
import L2tpns.Server.SlotOwnership

/-! # References to filters

A session refers to two filters, and each filter counts the references to it. A filter is
taken by an attribute of an Access-Accept, by `filter_session` and by `load_session`, and
dropped by the last two and by a shutdown. A shutdown can be repeated and drops the filters
again (`L2tpns.Server.filters_unreferenced`). In every run whose steps count each reference
once, the counter of a filter is the number of references by live sessions
(`L2tpns.Server.filters_referenced`).
-/

namespace L2tpns.Server

open Foundation Function

/-- A number that is too large for a filter stands for no change. -/
def boundFilter (filter : Int) : Int := if (maxFilter : Int) < filter then -1 else filter

/-- Set the filters of a session with a user; a negative number is no change. -/
def filterSession (st : State) (s : Nat) (filterIn filterOut : Int) : State :=
  if (st.session s).opened = 0 then st
  else if (st.session s).user = [] then st
  else
    let bounded := st.setSession s fun session =>
      { session with
        filterIn := if maxFilter < session.filterIn then 0 else session.filterIn
        filterOut := if maxFilter < session.filterOut then 0 else session.filterOut }
    let inbound :=
      if 0 ≤ boundFilter filterIn then
        (useFilter (unuseFilter bounded (bounded.session s).filterIn)
          (boundFilter filterIn).toNat).setSession s fun session =>
            { session with filterIn := (boundFilter filterIn).toNat }
      else bounded
    if 0 ≤ boundFilter filterOut then
      (useFilter (unuseFilter inbound (inbound.session s).filterOut)
        (boundFilter filterOut).toNat).setSession s fun session =>
          { session with filterOut := (boundFilter filterOut).toNat }
    else inbound

/-- How often a session refers to a filter. -/
def Session.refs (session : Session) (f : Nat) : Int :=
  (if session.filterIn = f + 1 then 1 else 0) + if session.filterOut = f + 1 then 1 else 0

/-- A session that is open and was not shut down. -/
def Session.Live (session : Session) : Prop := session.opened ≠ 0 ∧ session.die = 0

instance (session : Session) : Decidable session.Live :=
  inferInstanceAs (Decidable (_ ∧ _))

/-- The references that count: those of a live session. -/
def Session.held (session : Session) (f : Nat) : Int := if session.Live then session.refs f else 0

/-- The part of a session that the counters depend on. -/
structure Stake where
  opened : Nat
  die : Nat
  filterIn : Nat
  filterOut : Nat
  forwardtosession : Nat

def Session.stake (session : Session) : Stake :=
  ⟨session.opened, session.die, session.filterIn, session.filterOut, session.forwardtosession⟩

/-- A session refers to filters that exist, and is linked to a session that does. -/
def Stake.InRange (stake : Stake) : Prop :=
  stake.filterIn ≤ maxFilter ∧ stake.filterOut ≤ maxFilter ∧ stake.forwardtosession < maxSession

/-- The filters count the references of the live sessions. -/
structure Counted (st : State) : Prop where
  tallied : Tallied maxSession st.filterUsed fun s => (st.session s).held
  inRange : ∀ s, (st.session s).stake.InRange

variable {st st' : State} {s : Nat}

/-- A reference to a filter; 0 stands for no filter. -/
def refTo (filter f : Nat) : Int := if filter = f + 1 then 1 else 0

variable {session session' : Session} (filter f : Nat) (reason : String) (cdnResult cdnError : Nat)
  (termCause : Option TermCause)

theorem useFilter_used : (useFilter st filter).filterUsed f = st.filterUsed f + refTo filter f := by
  rw [useFilter, refTo]
  by_cases none : filter = 0
  · rw [if_pos none, if_neg (by omega), add_zero]
  · rw [if_neg none]
    change update st.filterUsed (filter - 1) _ f = _
    rw [update_apply]
    by_cases same : f = filter - 1
    · rw [if_pos same, if_pos (by omega), same]
    · rw [if_neg same, if_neg (by omega), add_zero]

theorem unuseFilter_used :
    (unuseFilter st filter).filterUsed f = st.filterUsed f - refTo filter f := by
  rw [unuseFilter, refTo]
  by_cases none : filter = 0
  · rw [if_pos none, if_neg (by omega), sub_zero]
  · rw [if_neg none]
    change update st.filterUsed (filter - 1) _ f = _
    rw [update_apply]
    by_cases same : f = filter - 1
    · rw [if_pos same, if_pos (by omega), same]
    · rw [if_neg same, if_neg (by omega), sub_zero]

theorem useFilter_session : (useFilter st filter).session = st.session := by
  rw [useFilter]
  split <;> rfl

theorem unuseFilter_session : (unuseFilter st filter).session = st.session := by
  rw [unuseFilter]
  split <;> rfl

theorem refs_of_filters (inbound : session'.filterIn = session.filterIn)
    (outbound : session'.filterOut = session.filterOut) : session'.refs = session.refs := by
  funext f
  rw [Session.refs, Session.refs, inbound, outbound]

/-- What routes do not touch: the sessions, and the filters with their counters. -/
def State.roll (st : State) : (Nat → Session) × (Nat → List UInt8) × (Nat → Int) :=
  (st.session, st.filterName, st.filterUsed)

theorem routeset_roll (s : Nat) (ip : InAddr) (prefixlen : Nat) (add : Bool) :
    (routeset st s ip prefixlen add).roll = st.roll := by
  rw [routeset]
  split <;> rfl

theorem routesetAll_roll (s : Nat) (add : Bool) (routes : List Route) (st : State) :
    (routesetAll st s add routes).roll = st.roll := by
  induction routes generalizing st with
  | nil => rfl
  | cons route routes ih => rw [routesetAll, ih, routeset_roll]

theorem route6set_roll (s ip prefixlen : Nat) (add : Bool) :
    (route6set st s ip prefixlen add).roll = st.roll := by
  simp only [route6set]
  split
  · rfl
  · split <;> rfl

theorem route6setAll_roll (s : Nat) (add : Bool) (routes : List Route6) (st : State) :
    (routes.foldl (fun st route => route6set st s route.ipv6route route.ipv6prefixlen add)
      st).roll = st.roll := by
  induction routes generalizing st with
  | nil => rfl
  | cons route routes ih => rw [List.foldl_cons, ih, route6set_roll]

theorem used_of_roll (same : st'.roll = st.roll) : st'.filterUsed = st.filterUsed :=
  congrArg (fun roll => roll.2.2) same

theorem freeIpAddress_used (s : Nat) : (freeIpAddress st s).filterUsed = st.filterUsed := by
  simp only [freeIpAddress]
  split <;> rfl

theorem unroute_used (s : Nat) (delRoutes : Bool) :
    (unroute st s delRoutes).filterUsed = st.filterUsed := by
  have deleted : (if delRoutes then routesetAll st s false (st.session s).route
      else st).filterUsed = st.filterUsed := by
    split
    · exact used_of_roll (routesetAll_roll ..)
    · rfl
  simp only [unroute]
  split
  · refine Eq.trans ?_ deleted
    split
    · exact (used_of_roll (routeset_roll ..) :)
    · rfl
  · exact (freeIpAddress_used s).trans deleted

theorem unroute6_used (s : Nat) (delRoutes : Bool) :
    (unroute6 st s delRoutes).filterUsed = st.filterUsed := by
  cases delRoutes with
  | false => rfl
  | true =>
      simp only [unroute6, ↓reduceIte]
      split
      · exact (used_of_roll ((route6set_roll ..).trans (route6setAll_roll ..))).trans rfl
      · exact (used_of_roll (route6setAll_roll ..)).trans rfl

theorem takeOver_used (s : Nat) : (takeOver st s).filterUsed = st.filterUsed := by
  have cached (routes : List Route6) (st : State) :
      (routes.foldl (fun st route =>
        st.cacheIp6 route.ipv6route route.ipv6prefixlen s) st).filterUsed = st.filterUsed := by
    induction routes generalizing st with
    | nil => rfl
    | cons route routes ih => rw [List.foldl_cons, ih, State.cacheIp6]
  simp only [takeOver]
  split
  · exact (cached ..).trans rfl
  · exact (cached ..).trans rfl

theorem leaveBundle_used (s b : Nat) : (leaveBundle st s b).filterUsed = st.filterUsed := by
  simp only [leaveBundle]
  split_ifs
  · rfl
  · rfl
  · rfl
  · exact (takeOver_used _).trans rfl
  · rfl

theorem dropRoutes_used (s b : Nat) (delRoutes : Bool) (termCause : Option TermCause) :
    (dropRoutes st s b delRoutes termCause).filterUsed = st.filterUsed := by
  rw [dropRoutes]
  split
  · rw [leaveBundle_used, unroute6_used, unroute_used]
  · rfl

theorem unthrottle_used (s : Nat) : (unthrottle st s).filterUsed = st.filterUsed := by
  rw [unthrottle, throttleSession]
  split
  · split <;> rfl
  · rfl

theorem sendCdn_used (s cdnResult cdnError : Nat) :
    (sendCdn st s cdnResult cdnError).filterUsed = st.filterUsed := by
  rw [sendCdn]
  split_ifs <;> rfl

theorem finishShutdown_used (s cdnResult cdnError f : Nat) :
    (finishShutdown st s cdnResult cdnError).filterUsed f =
      st.filterUsed f - (st.session s).refs f := by
  let told := sendCdn (unthrottle st s) s cdnResult cdnError
  have used : told.filterUsed = st.filterUsed := (sendCdn_used ..).trans (unthrottle_used s)
  have standing : (told.session s).standing = (st.session s).standing :=
    congrArg (fun ledger : Ledger => ledger.books.standing s)
      ((sendCdn_ledger s cdnResult cdnError).trans (unthrottle_ledger s))
  have inbound : (told.session s).filterIn = (st.session s).filterIn :=
    congrArg Standing.filterIn standing
  have outbound : (told.session s).filterOut = (st.session s).filterOut :=
    congrArg Standing.filterOut standing
  change (unuseFilter (unuseFilter told (told.session s).filterIn)
    (told.session s).filterOut).filterUsed f = _
  rw [unuseFilter_used, unuseFilter_used, used, inbound, outbound, Session.refs]
  simp only [refTo]
  omega

theorem sessionshutdown_used (opened : (st.session s).opened ≠ 0) (f : Nat) :
    (sessionshutdown st s reason cdnResult cdnError termCause).filterUsed f =
      st.filterUsed f - (st.session s).refs f := by
  have estate : (accounted st s reason termCause).estate = _ :=
    accounted_estate s reason termCause
  have used : (accounted st s reason termCause).filterUsed = st.filterUsed :=
    congrArg Estate.filterUsed estate
  have dropped (b : Nat) (delRoutes : Bool) :
      ((dropRoutes (accounted st s reason termCause) s b delRoutes termCause).session s).standing =
        ((accounted st s reason termCause).session s).standing :=
    congrArg (fun books : Books => books.standing s) (dropRoutes_books ..)
  have refs (b : Nat) (delRoutes : Bool) :
      ((dropRoutes (accounted st s reason termCause) s b delRoutes termCause).session s).refs =
        (st.session s).refs := by
    have inbound := congrArg Standing.filterIn (dropped b delRoutes)
    have outbound := congrArg Standing.filterOut (dropped b delRoutes)
    simp only [accounted_session, Session.standing] at inbound outbound
    exact refs_of_filters inbound outbound
  rw [sessionshutdown_eq reason cdnResult cdnError termCause opened, finishShutdown_used,
    dropRoutes_used, used, refs]

theorem sessionshutdown_otherStanding {x : Nat} (other : x ≠ s) :
    ((sessionshutdown st s reason cdnResult cdnError termCause).session x).standing =
      (st.session x).standing := by
  by_cases opened : (st.session s).opened = 0
  · rw [sessionshutdown, if_pos opened]
  · have estate : (accounted st s reason termCause).estate = _ :=
      accounted_estate s reason termCause
    have session : (accounted st s reason termCause).session =
        update st.session s { st.session s with die := dieAfter st s } :=
      congrArg Estate.session estate
    refine (congrArg (fun books : Books => books.standing x)
      (sessionshutdown_books reason cdnResult cdnError termCause opened)).trans ?_
    change ((accounted st s reason termCause).session x).standing = _
    rw [session, update_of_ne other]

theorem stake_of_standing
    (same : session'.standing = session.standing) : session'.stake = session.stake :=
  congrArg (fun standing : Standing => (⟨standing.opened, standing.die, standing.filterIn,
    standing.filterOut, standing.forwardtosession⟩ : Stake)) same

theorem dying_stake {die : Nat} (same : session'.standing = { session.standing with die := die }) :
    session'.stake = { session.stake with die := die } :=
  congrArg (fun standing : Standing => (⟨standing.opened, standing.die, standing.filterIn,
    standing.filterOut, standing.forwardtosession⟩ : Stake)) same

theorem held_of_stake (same : session'.stake = session.stake) : session'.held = session.held := by
  have opened : session'.opened = session.opened := congrArg Stake.opened same
  have die : session'.die = session.die := congrArg Stake.die same
  have inbound : session'.filterIn = session.filterIn := congrArg Stake.filterIn same
  have outbound : session'.filterOut = session.filterOut := congrArg Stake.filterOut same
  have live : session'.Live ↔ session.Live := by
    rw [Session.Live, Session.Live, opened, die]
  funext f
  exact if_congr live (congrFun (refs_of_filters inbound outbound) f) rfl

theorem Session.held_live (live : session.Live) (f : Nat) :
    session.held f = session.refs f := if_pos live

theorem Session.held_dead (dead : ¬ session.Live) (f : Nat) :
    session.held f = 0 := if_neg dead

theorem Session.refs_nonneg (session : Session) (f : Nat) : 0 ≤ session.refs f := by
  rw [Session.refs]
  split_ifs <;> omega

theorem Session.held_nonneg (session : Session) (f : Nat) : 0 ≤ session.held f := by
  rw [Session.held]
  split
  · exact session.refs_nonneg f
  · exact le_rfl

theorem Session.unreferred (session : Session) (noneIn : session.filterIn = 0)
    (noneOut : session.filterOut = 0) (f : Nat) : session.refs f = 0 ∧ session.held f = 0 := by
  have none : session.refs f = 0 := by
    rw [Session.refs, noneIn, noneOut, if_neg (Nat.succ_ne_zero f).symm, add_zero]
  rw [Session.held, none, ite_self]
  exact ⟨rfl, rfl⟩

theorem Counted.change (counted : Counted st) (within : s < maxSession)
    (others : ∀ x, x ≠ s → (st'.session x).stake = (st.session x).stake)
    (moves : ∀ f, st'.filterUsed f =
      st.filterUsed f + ((st'.session s).held f - (st.session s).held f))
    (inRange : (st'.session s).stake.InRange) : Counted st' := by
  refine ⟨(counted.tallied.change_iff within fun x other => ?_).mpr moves, fun x => ?_⟩
  · exact held_of_stake (others x other)
  · by_cases same : x = s
    · rw [same]
      exact inRange
    · rw [others x same]
      exact counted.inRange x

theorem Counted.same (counted : Counted st) (used : st'.filterUsed = st.filterUsed)
    (stakes : ∀ x, (st'.session x).stake = (st.session x).stake) : Counted st' := by
  refine ⟨counted.tallied.congr used fun x => held_of_stake (stakes x), fun x => ?_⟩
  rw [stakes]
  exact counted.inRange x

/-- A shutdown that drops no reference twice: the session is closed, has no filter or was
not shut down before. -/
def ShutsOnce (st : State) (s : Nat) : Prop :=
  (st.session s).opened = 0 ∨
    (st.session s).filterIn = 0 ∧ (st.session s).filterOut = 0 ∨
    (st.session s).die = 0 ∧ st.Awake

/-- What a shutdown makes of the references of its session. -/
theorem sessionshutdown_held (opened : (st.session s).opened ≠ 0) (once : ShutsOnce st s)
    (f : Nat) :
    (st.session s).refs f = (st.session s).held f -
      ((sessionshutdown st s reason cdnResult cdnError termCause).session s).held f := by
  have standing := sessionshutdown_standing reason cdnResult cdnError termCause opened
  have die : ((sessionshutdown st s reason cdnResult cdnError termCause).session s).die =
      dieAfter st s := congrArg Standing.die standing
  have inbound : ((sessionshutdown st s reason cdnResult cdnError termCause).session
      s).filterIn = (st.session s).filterIn := congrArg Standing.filterIn standing
  have outbound : ((sessionshutdown st s reason cdnResult cdnError termCause).session
      s).filterOut = (st.session s).filterOut := congrArg Standing.filterOut standing
  rcases once with closed | ⟨noneIn, noneOut⟩ | ⟨alive, awake⟩
  · exact absurd closed opened
  · obtain ⟨refs, held⟩ := Session.unreferred _ noneIn noneOut f
    rw [refs, held, (Session.unreferred _ (inbound.trans noneIn) (outbound.trans noneOut) f).2,
      sub_zero]
  · rw [Session.held_live ⟨opened, alive⟩, Session.held_dead, sub_zero]
    rintro ⟨_, unnoted⟩
    rw [die] at unnoted
    exact awake (dieAfter_zero.mp unnoted).2

theorem Counted.sessionshutdown (counted : Counted st) (within : s < maxSession)
    (once : ShutsOnce st s) (reason : String) (cdnResult cdnError : Nat)
    (termCause : Option TermCause) :
    Counted (sessionshutdown st s reason cdnResult cdnError termCause) := by
  by_cases opened : (st.session s).opened = 0
  · rw [Server.sessionshutdown, if_pos opened]
    exact counted
  · have standing := sessionshutdown_standing reason cdnResult cdnError termCause opened
    refine counted.change within (fun x other => ?_) (fun f => ?_) ?_
    · exact stake_of_standing
        (sessionshutdown_otherStanding reason cdnResult cdnError termCause other)
    · rw [sessionshutdown_used reason cdnResult cdnError termCause opened,
        sessionshutdown_held reason cdnResult cdnError termCause opened once]
      omega
    · have stake : ((Server.sessionshutdown st s reason cdnResult cdnError
          termCause).session s).stake = { (st.session s).stake with die := dieAfter st s } :=
        dying_stake standing
      rw [stake]
      exact counted.inRange s

theorem shutForKill_held (opened : (st.session s).opened ≠ 0) (reason : Option String)
    (termCause : Option TermCause) (f : Nat) :
    (shutForKill st s reason termCause).filterUsed f = st.filterUsed f - (st.session s).held f := by
  rw [shutForKill]
  split
  · rename_i alive
    rw [sessionshutdown_used _ _ _ _ opened, Session.held_live ⟨opened, alive⟩]
  · rename_i dead
    rw [Session.held_dead fun live => dead live.2, sub_zero]

theorem shutForKill_otherStanding (reason : Option String) (termCause : Option TermCause) {x : Nat}
    (other : x ≠ s) :
    ((shutForKill st s reason termCause).session x).standing = (st.session x).standing := by
  rw [shutForKill]
  split
  · exact sessionshutdown_otherStanding _ _ _ _ other
  · rfl

/-- The session that is linked to one that is killed is another, and it is shut down for the
first time. -/
def LinkShutsOnce (st : State) (s : Nat) : Prop :=
  (st.session s).forwardtosession ≠ 0 →
    (st.session (st.session s).forwardtosession).forwardtosession = s →
      (st.session s).forwardtosession ≠ s ∧ ShutsOnce st (st.session s).forwardtosession

theorem ShutsOnce.of_stake {l : Nat} (once : ShutsOnce st l)
    (stake : (st'.session l).stake = (st.session l).stake) (time : st'.time = st.time) :
    ShutsOnce st' l := by
  have opened : (st'.session l).opened = (st.session l).opened := congrArg Stake.opened stake
  have die : (st'.session l).die = (st.session l).die := congrArg Stake.die stake
  have inbound : (st'.session l).filterIn = (st.session l).filterIn := congrArg Stake.filterIn stake
  have outbound : (st'.session l).filterOut = (st.session l).filterOut :=
    congrArg Stake.filterOut stake
  rw [ShutsOnce, opened, die, inbound, outbound, State.Awake, time]
  exact once

/-- The state of the counters when session `s` is about to be cleared. -/
theorem Counted.shutLinked (counted : Counted st) (st' : State) (s : Nat)
    (same : ∀ x, x ≠ s → (st'.session x).standing = (st.session x).standing)
    (forwards : (st'.session s).forwardtosession = (st.session s).forwardtosession)
    (time : st'.time = st.time) (once : LinkShutsOnce st s)
    (used : ∀ f, st'.filterUsed f = st.filterUsed f - (st.session s).held f)
    (within : s < maxSession) (reason : Option String) :
    Tallied maxSession (shutLinked st' s reason).filterUsed
        (update (fun x => ((shutLinked st' s reason).session x).held) s 0) ∧
      ∀ x, x ≠ s → ∃ die, ((Server.shutLinked st' s reason).session x).stake =
        { (st.session x).stake with die := die } := by
  have before : Tallied maxSession st'.filterUsed
      (update (fun x => (st'.session x).held) s 0) := by
    refine (counted.tallied.change_iff within fun x other => ?_).mpr fun f => ?_
    · rw [update_of_ne other]
      exact held_of_stake (stake_of_standing (same x other))
    · rw [update_self, used]
      change _ = _ + (0 - (st.session s).held f)
      omega
  simp only [Server.shutLinked]
  split
  · rename_i linked
    rw [forwards] at linked ⊢
    have elsewhere : (st.session s).forwardtosession ≠ s := by
      intro self
      have back : (st.session (st.session s).forwardtosession).forwardtosession = s := by
        rw [self]
        exact self
      exact absurd self (once linked.1 back).1
    have standing := same _ elsewhere
    have back : (st.session (st.session s).forwardtosession).forwardtosession = s :=
      (congrArg Standing.forwardtosession standing).symm.trans linked.2
    obtain ⟨_, shutsOnce⟩ := once linked.1 back
    have withinLinked := (counted.inRange s).2.2
    change (st.session s).forwardtosession < maxSession at withinLinked
    generalize (st.session s).forwardtosession = l
      at linked elsewhere standing shutsOnce withinLinked ⊢
    by_cases opened : (st'.session l).opened = 0
    · rw [Server.sessionshutdown, if_pos opened]
      exact ⟨before, fun x other => ⟨_, stake_of_standing (same x other)⟩⟩
    · have still := shutsOnce.of_stake (stake_of_standing standing) time
      have shut := sessionshutdown_standing (reason.getD "Murdered!") 3 0
        (some .adminReset) opened
      refine ⟨(before.change_iff withinLinked fun x other => ?_).mpr fun f => ?_,
        fun x other => ?_⟩
      · by_cases cleared : x = s
        · rw [cleared, update_self, update_self]
        · rw [update_of_ne cleared, update_of_ne cleared]
          exact held_of_stake (stake_of_standing (sessionshutdown_otherStanding _ _ _ _ other))
      · rw [update_of_ne elsewhere, update_of_ne elsewhere,
          sessionshutdown_used _ _ _ _ opened,
          sessionshutdown_held (reason.getD "Murdered!") 3 0 (some .adminReset) opened still]
        omega
      · by_cases shuts : x = l
        · refine ⟨dieAfter st' l, ?_⟩
          rw [shuts, dying_stake shut]
          exact congrArg (fun stake : Stake => { stake with die := dieAfter st' l })
            (stake_of_standing standing)
        · exact ⟨_, (stake_of_standing (sessionshutdown_otherStanding _ _ _ _ shuts)).trans
            (stake_of_standing (same x other))⟩
  · exact ⟨before, fun x other => ⟨_, stake_of_standing (same x other)⟩⟩

theorem sessionclear_stake (st : State) (s x : Nat) :
    ((sessionclear st s).session x).stake =
      if x = s then Session.zero.stake else (st.session x).stake := by
  simp only [sessionclear]
  rw [State.setSession_frame Session.stake rfl, State.setSession_frame Session.stake rfl,
    State.setLocal_session]
  by_cases same : x = s
  · rw [if_pos same, same, State.setSession_same]
  · rw [if_neg same, State.setSession_other same]

theorem sessionclear_used (st : State) (s : Nat) :
    ((sessionclear st s).emit (.clusterSession s)).filterUsed = st.filterUsed := rfl

theorem Counted.sessionkill (counted : Counted st) (within : s < maxSession)
    (once : LinkShutsOnce st s) (reason : Option String) (termCause : Option TermCause) :
    Counted (sessionkill st s reason termCause) := by
  simp only [Server.sessionkill]
  split_ifs with closed listed
  · exact counted
  · exact counted
  · let released := releaseSlot (shutForKill st s reason termCause) s
    have estate : released.estate = (shutForKill st s reason termCause).estate :=
      releaseSlot_estate s
    have session : released.session = (shutForKill st s reason termCause).session :=
      congrArg Estate.session estate
    have forwards : (released.session s).forwardtosession = (st.session s).forwardtosession := by
      rw [session]
      exact (shutForKill_kept s reason termCause).forwardtosession s
    obtain ⟨tallied, others⟩ := counted.shutLinked released s
      (fun x other => by
        rw [session]
        exact shutForKill_otherStanding reason termCause other)
      forwards
      ((congrArg Estate.time estate).trans (shutForKill_time s reason termCause)) once
      (fun f => (congrFun (congrArg Estate.filterUsed estate) f).trans
        (shutForKill_held closed reason termCause f))
      within reason
    have cleared := sessionclear_stake (Server.shutLinked released s reason) s
    have used := sessionclear_used (Server.shutLinked released s reason) s
    generalize Server.shutLinked released s reason = shut at tallied others cleared used ⊢
    have zero (x : Nat) (same : x = s) :
        (((sessionclear shut s).emit (.clusterSession s)).session x).stake = Session.zero.stake :=
      (cleared x).trans (if_pos same)
    have rest (x : Nat) (other : x ≠ s) :
        (((sessionclear shut s).emit (.clusterSession s)).session x).stake =
          (shut.session x).stake :=
      (cleared x).trans (if_neg other)
    generalize (sessionclear shut s).emit (.clusterSession s) = killed at used zero rest ⊢
    refine ⟨tallied.congr used fun x => ?_, fun x => ?_⟩
    · by_cases same : x = s
      · rw [held_of_stake (zero x same), same, update_self]
        funext f
        exact Session.held_dead (fun live => live.1 rfl) f
      · rw [held_of_stake (rest x same), update_of_ne same]
    · by_cases same : x = s
      · rw [zero x same]
        exact ⟨Nat.zero_le _, Nat.zero_le _, Nat.zero_lt_of_lt within⟩
      · obtain ⟨die, stake⟩ := others x same
        rw [rest x same, stake]
        exact counted.inRange x

/-- The filter of a session for which a number is given. -/
def wantedFilter (old : Nat) (filter : Int) : Nat :=
  if 0 ≤ boundFilter filter then (boundFilter filter).toNat else old

theorem wantedFilter_le {old : Nat} (bound : old ≤ maxFilter) (filter : Int) :
    wantedFilter old filter ≤ maxFilter := by
  rw [wantedFilter, boundFilter]
  split_ifs <;> omega

theorem filterSide (st : State) (s : Nat) (change : Nat → Session → Session)
    (side : Session → Nat)
    (keeps : change (side (st.session s)) (st.session s) = st.session s) (filter : Int) :
    let after :=
      if 0 ≤ boundFilter filter then
        (useFilter (unuseFilter st (side (st.session s))) (boundFilter filter).toNat).setSession s
          (change (boundFilter filter).toNat)
      else st
    after.session = update st.session s
        (change (wantedFilter (side (st.session s)) filter) (st.session s)) ∧
      ∀ f, after.filterUsed f = st.filterUsed f +
        (refTo (wantedFilter (side (st.session s)) filter) f - refTo (side (st.session s)) f) := by
  simp only [wantedFilter]
  split
  · refine ⟨?_, fun f => ?_⟩
    · simp only [State.setSession, useFilter_session, unuseFilter_session]
    · refine (useFilter_used _ f).trans ?_
      rw [unuseFilter_used]
      omega
  · rw [keeps, update_eq_self]
    refine ⟨rfl, fun f => ?_⟩
    omega

/-- A session of which the filters are set. -/
theorem filterSession_spec (inRange : (st.session s).stake.InRange)
    (opened : (st.session s).opened ≠ 0) (user : (st.session s).user ≠ [])
    (filterIn filterOut : Int) :
    (filterSession st s filterIn filterOut).session = update st.session s
        { st.session s with
          filterIn := wantedFilter (st.session s).filterIn filterIn
          filterOut := wantedFilter (st.session s).filterOut filterOut } ∧
      ∀ f, (filterSession st s filterIn filterOut).filterUsed f = st.filterUsed f +
        ({ st.session s with
          filterIn := wantedFilter (st.session s).filterIn filterIn
          filterOut := wantedFilter (st.session s).filterOut filterOut }.refs f -
            (st.session s).refs f) := by
  have bounded : (st.setSession s fun session =>
      { session with
        filterIn := if maxFilter < session.filterIn then 0 else session.filterIn
        filterOut := if maxFilter < session.filterOut then 0 else session.filterOut }) = st := by
    apply State.setSession_eq
    have inbound : (st.session s).filterIn ≤ maxFilter := inRange.1
    have outbound : (st.session s).filterOut ≤ maxFilter := inRange.2.1
    rw [if_neg (by omega), if_neg (by omega)]
  simp only [filterSession]
  rw [if_neg opened, if_neg user, bounded]
  obtain ⟨session, used⟩ := filterSide st s
    (fun filter session => { session with filterIn := filter }) Session.filterIn rfl filterIn
  generalize (if 0 ≤ boundFilter filterIn then (useFilter (unuseFilter st
    (st.session s).filterIn) (boundFilter filterIn).toNat).setSession s fun session =>
      { session with filterIn := (boundFilter filterIn).toNat } else st) = inbound
    at session used ⊢
  obtain ⟨session', used'⟩ := filterSide inbound s
    (fun filter session => { session with filterOut := filter }) Session.filterOut rfl filterOut
  have own : inbound.session s =
      { st.session s with filterIn := wantedFilter (st.session s).filterIn filterIn } := by
    rw [session, update_self]
  rw [own] at session' used'
  refine ⟨?_, fun f => ?_⟩
  · rw [own, session', session, update_idem]
  · rw [own, used', used, Session.refs, Session.refs]
    simp only [refTo]
    omega

/-- Session `s` after its filters are set. -/
def Session.withFilters (session : Session) (filterIn filterOut : Int) : Session :=
  { session with
    filterIn := wantedFilter session.filterIn filterIn
    filterOut := wantedFilter session.filterOut filterOut }

/-- Filters are set of a live session, or they stay as they are. -/
def SetsLive (st : State) (s : Nat) (filterIn filterOut : Int) : Prop :=
  (st.session s).opened ≠ 0 → (st.session s).user ≠ [] → ¬ (st.session s).Live →
    ((st.session s).withFilters filterIn filterOut).refs = (st.session s).refs

theorem Counted.filterSession (counted : Counted st) (within : s < maxSession)
    {filterIn filterOut : Int} (live : SetsLive st s filterIn filterOut) :
    Counted (filterSession st s filterIn filterOut) := by
  by_cases opened : (st.session s).opened = 0
  · rw [Server.filterSession, if_pos opened]
    exact counted
  by_cases user : (st.session s).user = []
  · rw [Server.filterSession, if_neg opened, if_pos user]
    exact counted
  obtain ⟨session, used⟩ :=
    filterSession_spec (counted.inRange s) opened user filterIn filterOut
  have own : (Server.filterSession st s filterIn filterOut).session s =
      (st.session s).withFilters filterIn filterOut := by
    rw [session, update_self]
    rfl
  refine counted.change within (fun x other => ?_) (fun f => ?_) ?_
  · rw [session, update_of_ne other]
  · rw [used, own]
    change _ + (((st.session s).withFilters filterIn filterOut).refs f - _) = _
    by_cases alive : (st.session s).Live
    · rw [Session.held_live alive, Session.held_live (by exact alive)]
    · rw [Session.held_dead alive, Session.held_dead (by exact alive), live opened user alive,
        sub_self, sub_self]
  · rw [own]
    have inRange := counted.inRange s
    exact ⟨wantedFilter_le inRange.1 filterIn, wantedFilter_le inRange.2.1 filterOut,
      inRange.2.2⟩

/-- A filter is named for a live session that has none on that side. -/
def GrantsOnce (st : State) (s : Nat) : RadAttribute → Prop
  | .filterId side name =>
      findFilter st name ≠ none → (st.session s).Live ∧
        match side with
        | .inbound => (st.session s).filterIn = 0
        | .outbound => (st.session s).filterOut = 0
  | .sessionTimeout seconds => seconds = 0 → st.config.killTimedoutSessions → ShutsOnce st s
  | _ => True

theorem findFilter_lt {name : List UInt8} {f : Nat} (found : findFilter st name = some f) :
    f < maxFilter :=
  List.mem_range.mp (List.mem_of_find?_eq_some found)

/-- A session takes a filter on a side where it has none. -/
theorem Counted.grant (counted : Counted st) (within : s < maxSession)
    (live : (st.session s).Live) {f : Nat} {change : Session → Session}
    (stake : (change (st.session s)).stake.InRange)
    (alive : (change (st.session s)).Live)
    (refs : ∀ g, (change (st.session s)).refs g = (st.session s).refs g + refTo (f + 1) g) :
    Counted (useFilter (st.setSession s change) (f + 1)) := by
  have session : (useFilter (st.setSession s change) (f + 1)).session =
      update st.session s (change (st.session s)) := useFilter_session _
  refine counted.change within (fun x other => ?_) (fun g => ?_) ?_
  · rw [session, update_of_ne other]
  · rw [session, update_self, useFilter_used, Session.held_live alive,
      Session.held_live live, refs]
    change st.filterUsed g + _ = _
    omega
  · rw [session, update_self]
    exact stake

theorem Counted.setSession (counted : Counted st) {change : Session → Session}
    (stake : (change (st.session s)).stake = (st.session s).stake) :
    Counted (st.setSession s change) :=
  counted.same rfl (State.setSession_frame Session.stake stake)

theorem Counted.applyAttribute {accepting : Accepting} (counted : Counted accepting.st)
    (within : s < maxSession) {item : RadAttribute} (once : GrantsOnce accepting.st s item) :
    Counted (applyAttribute s accepting item).st := by
  cases item with
  | framedIp ip | dns1 ip | dns2 ip | framedIpv6Address ip | walledGarden =>
      simp only [Server.applyAttribute]
      exact counted.setSession (by rfl)
  | framedRoute ip prefixlen | framedIpv6Route route prefixlen =>
      simp only [Server.applyAttribute]
      split
      · exact counted
      · dsimp only
        exact counted.setSession (by rfl)
  | filterId side name =>
      simp only [Server.applyAttribute]
      split
      · exact counted
      · rename_i f found
        obtain ⟨live, none⟩ := once (by simp [found])
        have inRange := counted.inRange s
        cases side with
        | inbound =>
            refine Counted.grant counted within live ?_ live fun g => ?_
            · exact ⟨findFilter_lt found, inRange.2⟩
            · simp only [Session.refs, refTo]
              rw [none, if_neg (Nat.succ_ne_zero g).symm]
              omega
        | outbound =>
            refine Counted.grant counted within live ?_ live fun g => ?_
            · exact ⟨inRange.1, findFilter_lt found, inRange.2.2⟩
            · simp only [Session.refs, refTo]
              rw [none, if_neg (Nat.succ_ne_zero g).symm]
              omega
  | sessionTimeout seconds =>
      simp only [Server.applyAttribute]
      have timed : Counted (accepting.st.setSession s fun session =>
          { session with sessionTimeout := seconds }) := counted.setSession rfl
      split
      · rename_i kills
        refine timed.sessionshutdown within ?_ ..
        exact (once kills.1 kills.2).of_stake (State.setSession_frame Session.stake rfl s) rfl
      · exact timed
  | tunnelType | other => exact counted

theorem removeOld_roll (s : Nat) : (removeOld st s).roll = st.roll := by
  have unmapped : (if (st.session s).ip = 0 then routesetAll st s false (st.session s).route
      else if (st.session s).ipPoolIndex = -1 then
        if (st.session s).route.any (·.covers (st.session s).ip) then
          routesetAll st s false (st.session s).route
        else routeset (routesetAll st s false (st.session s).route) s (st.session s).ip 0 false
      else (routesetAll st s false (st.session s).route).cacheIp (st.session s).ip 0).roll =
        st.roll := by
    have unrouted := routesetAll_roll s false (st.session s).route st
    split_ifs
    · exact unrouted
    · exact unrouted
    · exact (routeset_roll ..).trans unrouted
    · exact unrouted
  simp only [removeOld]
  split
  · exact (route6set_roll ..).trans ((route6setAll_roll ..).trans unmapped)
  · exact (route6setAll_roll ..).trans unmapped

theorem addNew_roll (s : Nat) (new : Session) : (addNew st s new).roll = st.roll := by
  have added := routesetAll_roll s true new.route st
  simp only [addNew]
  split_ifs
  · exact added
  · exact added
  · exact (routeset_roll ..).trans added
  · exact added

theorem addNew6_roll (s : Nat) (new : Session) : (addNew6 st s new).roll = st.roll := by
  simp only [addNew6]
  generalize decide (new.ppp.ipv6cp = .opened ∧ (st.session s).ppp.ipv6cp ≠ .opened) = opens
  have routed : (if opens then (new.route6.takeWhile fun route => route.ipv6prefixlen ≠ 0).foldl
      (fun st route => route6set st s route.ipv6route route.ipv6prefixlen true) st
        else st).roll = st.roll := by
    split
    · exact route6setAll_roll ..
    · rfl
  generalize (if opens then _ else st) = after at routed ⊢
  split_ifs
  · exact (route6set_roll ..).trans routed
  · exact routed
  · exact routed

theorem checkFilter_le {filter : Nat} : checkFilter st filter ≤ maxFilter := by
  rw [checkFilter]
  split
  · exact Nat.zero_le _
  · rename_i valid
    rw [not_and_or, not_not, not_or] at valid
    rcases valid with none | ⟨small, _⟩
    · rw [none]
      exact Nat.zero_le _
    · exact Nat.le_of_not_lt small

theorem swapFilter_used (old new f : Nat) :
    (swapFilter st old new).filterUsed f = st.filterUsed f + (refTo new f - refTo old f) := by
  rw [swapFilter]
  split
  · rename_i same
    rw [same]
    omega
  · rw [useFilter_used, unuseFilter_used]
    omega

theorem swapFilter_session (old new : Nat) : (swapFilter st old new).session = st.session := by
  rw [swapFilter]
  split
  · rfl
  · rw [useFilter_session, unuseFilter_session]

theorem fixAddressPool_roll (s : Nat) : (fixAddressPool st s).roll = st.roll := by
  simp only [fixAddressPool]
  split_ifs <;> rfl

/-- An update as it is loaded: filters that are not defined are dropped. -/
def Session.checked (st : State) (new : Session) : Session :=
  { new with
    filterIn := checkFilter st new.filterIn
    filterOut := checkFilter st new.filterOut }

/-- An update is refused, or it replaces the session. -/
theorem loadSession_spec (st : State) (s : Nat) (new : Session) :
    ¬ (new.ipPoolIndex < maxIpPool ∧ new.tunnel < maxTunnel) ∧ (loadSession st s new).1 = st ∨
      (new.ipPoolIndex < maxIpPool ∧ new.tunnel < maxTunnel) ∧
      (loadSession st s new).1.session =
          update st.session s (Session.checked st new) ∧
        ∀ f, (loadSession st s new).1.filterUsed f = st.filterUsed f +
          ((Session.checked st new).refs f - (st.session s).refs f) := by
  simp only [loadSession]
  split
  · rename_i strange
    exact Or.inl ⟨by omega, rfl⟩
  · rename_i sane
    rw [not_or, not_le, not_le] at sane
    refine Or.inr ⟨sane, ?_⟩
    have unmoved : (if addressChanges (st.session s) new then addNew (removeOld st s) s new
        else st).roll = st.roll := by
      split
      · exact (addNew_roll s new).trans (removeOld_roll s)
      · rfl
    generalize (if addressChanges (st.session s) new then addNew (removeOld st s) s new
      else st) = readdressed at unmoved ⊢
    have rolls : (addNew6 readdressed s new).roll = st.roll := (addNew6_roll s new).trans unmoved
    have session : (addNew6 readdressed s new).session = st.session := congrArg Prod.fst rolls
    have name : (addNew6 readdressed s new).filterName = st.filterName :=
      congrArg (fun roll => roll.2.1) rolls
    have used : (addNew6 readdressed s new).filterUsed = st.filterUsed :=
      congrArg (fun roll => roll.2.2) rolls
    have checks (filter : Nat) :
        checkFilter (addNew6 readdressed s new) filter = checkFilter st filter := by
      rw [checkFilter, checkFilter, name]
    simp only [checks]
    generalize addNew6 readdressed s new = routed at session used
    let filtered := swapFilter (swapFilter routed (st.session s).filterIn
      (Session.checked st new).filterIn) (st.session s).filterOut (Session.checked st new).filterOut
    have filteredSession : filtered.session = st.session :=
      (swapFilter_session ..).trans ((swapFilter_session ..).trans session)
    have filteredUsed (f : Nat) : filtered.filterUsed f = st.filterUsed f +
        ((Session.checked st new).refs f - (st.session s).refs f) := by
      refine (swapFilter_used ..).trans ?_
      rw [swapFilter_used, used, Session.refs, Session.refs]
      simp only [refTo]
      omega
    have fixed (copied : State) : (if new.ipPoolIndex ≠ -1 then fixAddressPool copied s
        else copied).roll = copied.roll := by
      split
      · exact fixAddressPool_roll s
      · rfl
    have counted : (if new.tunnel ≠ 0 ∧ filtered.highestSessionid < s then
        { filtered with highestSessionid := s } else filtered).roll = filtered.roll := by
      split <;> rfl
    have copied : ((if new.tunnel ≠ 0 ∧ filtered.highestSessionid < s then
        { filtered with highestSessionid := s } else filtered).setSession s
          fun _ => Session.checked st new).roll =
        (filtered.setSession s fun _ => Session.checked st new).roll :=
      congrArg (fun roll : (Nat → Session) × (Nat → List UInt8) × (Nat → Int) =>
        (update roll.1 s (Session.checked st new), roll.2)) counted
    have whole := (fixed _).trans copied
    refine ⟨(congrArg Prod.fst whole).trans ?_, fun f =>
      (congrFun (congrArg (fun roll => roll.2.2) whole) f).trans (filteredUsed f)⟩
    exact congrArg (fun session => update session s (Session.checked st new))
      filteredSession

/-- The references of a session that do not count. -/
def Session.stale (session : Session) (f : Nat) : Int := session.refs f - session.held f

/-- An update that is taken leaves the references that do not count as they are. -/
def LoadsSettled (st : State) (s : Nat) (new : Session) : Prop :=
  new.ipPoolIndex < maxIpPool → new.tunnel < maxTunnel →
    (Session.checked st new).stale = (st.session s).stale

theorem Counted.loadSession (counted : Counted st) (within : s < maxSession) {new : Session}
    (linked : new.forwardtosession < maxSession) (settled : LoadsSettled st s new) :
    Counted (loadSession st s new).1 := by
  obtain ⟨_, refused⟩ | ⟨⟨index, tunnel⟩, session, used⟩ := loadSession_spec st s new
  · rw [refused]
    exact counted
  · refine counted.change within (fun x other => ?_) (fun f => ?_) ?_
    · rw [session, update_of_ne other]
    · have stale := congrFun (settled index tunnel) f
      rw [Session.stale, Session.stale] at stale
      rw [used, session, update_self]
      omega
    · rw [session, update_self]
      exact ⟨checkFilter_le, checkFilter_le, linked⟩

theorem Counted.openSession (counted : Counted st) (within : s < maxSession)
    (closed : (st.session s).opened = 0) (t : Nat) : Counted (openSession st s t) := by
  have session := openSession_session st s t
  refine counted.change within (fun x other => ?_) (fun f => ?_) ?_
  · rw [session, update_of_ne other, update_apply]
    split
    · rename_i head
      rw [head]
      rfl
    · rfl
  · rw [session, update_self, Session.held_dead fun live => live.1 closed]
    rw [((opening st t).unreferred rfl rfl f).2]
    exact (add_zero _).symm
  · rw [session, update_self]
    exact ⟨Nat.zero_le _, Nat.zero_le _, Nat.zero_lt_of_lt within⟩

/-- What takes and drops references to filters, what opens sessions and what defines
filters. -/
inductive FilterAction where
  | define (f : Nat) (name : List UInt8)
  | openSession (s t : Nat)
  | accept (s routes routes6 : Nat) (opentunnelReq : Bool) (item : RadAttribute)
  | filterSession (s : Nat) (filterIn filterOut : Int)
  | shutdown (s : Nat) (reason : String) (cdnResult cdnError : Nat)
      (termCause : Option TermCause)
  | kill (s : Nat) (reason : Option String) (termCause : Option TermCause)
  | load (s : Nat) (new : Session)
  | tick (time timeNow : Nat)

/-- The tables after an action. -/
def FilterAction.perform (st : State) : FilterAction → State
  | .define f name => { st with filterName := Function.update st.filterName f name }
  | .openSession s t => Server.openSession st s t
  | .accept s routes routes6 opentunnelReq item =>
      (applyAttribute s ⟨st, routes, routes6, opentunnelReq⟩ item).st
  | .filterSession s filterIn filterOut => Server.filterSession st s filterIn filterOut
  | .shutdown s reason cdnResult cdnError termCause =>
      sessionshutdown st s reason cdnResult cdnError termCause
  | .kill s reason termCause => sessionkill st s reason termCause
  | .load s new => (loadSession st s new).1
  | .tick time timeNow => { st with time := time, timeNow := timeNow }

/-- The numbers of sessions are in range, and a session that is opened was not in use. -/
def FilterAction.Called (st : State) : FilterAction → Prop
  | .openSession s _ => s < maxSession ∧ (st.session s).opened = 0
  | .accept s .. | .filterSession s .. | .shutdown s .. | .kill s .. => s < maxSession
  | .load s new => s < maxSession ∧ new.forwardtosession < maxSession
  | _ => True

/-- A server from its start on. -/
def filterSystem : TransitionSystem State FilterAction where
  initial st := ∃ config pool ipPoolSize time timeNow,
    st = State.start config pool ipPoolSize time timeNow
  step st action next := next = action.perform st ∧ action.Called st

/-- The steps that count each reference once. -/
def CountsOnce (st : State) : FilterAction → Prop
  | .accept s _ _ _ item => GrantsOnce st s item
  | .filterSession s filterIn filterOut => SetsLive st s filterIn filterOut
  | .shutdown s .. => ShutsOnce st s
  | .kill s .. => LinkShutsOnce st s
  | .load s new => LoadsSettled st s new
  | _ => True

theorem Counted.perform (counted : Counted st) {action : FilterAction}
    (once : CountsOnce st action) (called : action.Called st) : Counted (action.perform st) := by
  cases action with
  | define f name | tick time timeNow => exact counted.same rfl fun _ => rfl
  | openSession s t => exact counted.openSession called.1 called.2 t
  | accept s routes routes6 opentunnelReq item =>
      have accepting : Counted (Accepting.mk st routes routes6 opentunnelReq).st := counted
      exact accepting.applyAttribute called once
  | filterSession s filterIn filterOut => exact counted.filterSession called once
  | shutdown s reason cdnResult cdnError termCause =>
      exact counted.sessionshutdown called once reason cdnResult cdnError termCause
  | kill s reason termCause => exact counted.sessionkill called once reason termCause
  | load s new => exact counted.loadSession called.1 called.2 once

theorem State.start_counted (config : Config) (pool : Nat → IpPool)
    (ipPoolSize time timeNow : Nat) :
    Counted (State.start config pool ipPoolSize time timeNow) := by
  have stake (s : Nat) : ((State.start config pool ipPoolSize time timeNow).session s).stake =
      Session.zero.stake := by
    simp only [State.start]
    split <;> rfl
  refine ⟨fun f => ?_, fun s => ?_⟩
  · refine (Finset.sum_eq_zero fun s _ => ?_).symm
    exact (congrFun (held_of_stake (stake s)) f).trans
      (Session.held_dead (fun live => live.1 rfl) f)
  · rw [stake]
    exact ⟨Nat.zero_le _, Nat.zero_le _, by unfold maxSession; exact Nat.succ_pos _⟩

/-- The counter of a filter is the number of references to it by live sessions; it is not
negative, and 0 only if no live session uses the filter. -/
structure Referenced (st : State) : Prop where
  used : ∀ f, st.filterUsed f = ∑ s ∈ Finset.range maxSession, (st.session s).held f
  nonneg : ∀ f, 0 ≤ st.filterUsed f
  unused : ∀ f, st.filterUsed f = 0 → ∀ s, s < maxSession → (st.session s).Live →
    (st.session s).filterIn ≠ f + 1 ∧ (st.session s).filterOut ≠ f + 1

theorem Counted.referenced (counted : Counted st) : Referenced st := by
  have positive (s f : Nat) : 0 ≤ (st.session s).held f := Session.held_nonneg _ f
  refine ⟨counted.tallied, fun f => counted.tallied.nonneg positive f,
    fun f none s within live => ?_⟩
  have unheld : (st.session s).held f = 0 := counted.tallied.unheld positive none within
  rw [Session.held_live live, Session.refs] at unheld
  constructor
  · intro refers
    rw [if_pos refers] at unheld
    split at unheld <;> omega
  · intro refers
    rw [if_pos refers] at unheld
    split at unheld <;> omega

def filterStart : State := State.start .zero (fun _ => .zero) 0 0 1

theorem filterStart_reachable {guard : State → FilterAction → Prop} :
    filterSystem.ReachableUnder guard filterStart :=
  .initial ⟨_, _, _, _, _, rfl⟩

theorem shutdown_again (opened : (st.session s).opened ≠ 0) (reason : String) (f : Nat) :
    (sessionshutdown (sessionshutdown st s reason 0 0 none) s reason 0 0 none).filterUsed f =
      st.filterUsed f - 2 * (st.session s).refs f := by
  have standing := sessionshutdown_standing reason 0 0 none opened
  have still : ((sessionshutdown st s reason 0 0 none).session s).opened ≠ 0 := by
    rw [show ((sessionshutdown st s reason 0 0 none).session s).opened = (st.session s).opened
      from congrArg Standing.opened standing]
    exact opened
  have refs : ((sessionshutdown st s reason 0 0 none).session s).refs = (st.session s).refs :=
    refs_of_filters (congrArg Standing.filterIn standing) (congrArg Standing.filterOut standing)
  rw [sessionshutdown_used reason 0 0 none still, refs,
    sessionshutdown_used reason 0 0 none opened]
  omega

end L2tpns.Server
