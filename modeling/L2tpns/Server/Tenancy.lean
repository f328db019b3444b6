import L2tpns.Server.Bundles
import L2tpns.Server.Unroute

/-! # Who the map of addresses names

A cell of the map names a session if it holds its number. As long as the sessions that are
shut down cover with their routes and address what the map gave to them, no cell names a
session that is not live (`L2tpns.Server.Tenancy.Sound`). Shutdowns, kills and openings keep
that.
-/

namespace L2tpns.Server

open Foundation Function

/-- What of a session, besides its address, decides what it maps. -/
structure Deed where
  index : Int
  route : List Route

def Session.deed (session : Session) : Deed := ⟨session.ipPoolIndex, session.route⟩

/-- The map, and what it depends on. -/
structure Tenancy where
  roster : Roster
  deed : Nat → Deed
  cell : InAddr → Nat

def State.tenancy (st : State) : Tenancy where
  roster := st.roster
  deed := fun s => (st.session s).deed
  cell := lookupIpmap st.ipHash

/-- An address of a route. -/
def Routed (routes : List Route) (a : InAddr) : Prop :=
  ∃ route ∈ routes, (routePatch route.ip route.prefixlen 0).covers a = true

/-- What a session with address `ip` maps: its routes, and its address, unless a route covers
it. The route of the last address there is wraps around. -/
def Deed.Maps (deed : Deed) (ip a : InAddr) : Prop :=
  Routed deed.route a ∨
    if deed.index = -1 then
      deed.route.any (·.covers ip) = false ∧ (routePatch ip 0 0).covers a = true
    else a = ip

/-- A cell that holds this value names no session. -/
def Nobody (value : Nat) : Prop := value = 0 ∨ maxSession ≤ value

/-- What a cell holds when an address is given back to the pool. -/
def pooled (index : Int) : Nat := (-(index.toNat : Int) % 2 ^ 16).toNat

namespace Tenancy

variable (tenancy : Tenancy)

/-- A live session that maps an address. In a bundle it is the first link. -/
structure Tenant (x : Nat) (a : InAddr) : Prop where
  live : tenancy.roster.Live x
  addressed : tenancy.roster.ip x ≠ 0
  maps : (tenancy.deed x).Maps (tenancy.roster.ip x) a
  first : tenancy.roster.bundle x ≠ 0 →
    (tenancy.roster.links (tenancy.roster.bundle x)).members 0 = x

/-- The cells name tenants only. Links of a bundle have its address and route alike. -/
structure Sound : Prop where
  roster : tenancy.roster.Sound
  cells : ∀ a, Nobody (tenancy.cell a) ∨ tenancy.Tenant (tenancy.cell a) a
  indexes : ∀ x, (tenancy.deed x).index ≠ -1 → Nobody (pooled (tenancy.deed x).index)
  alike : ∀ b x y, b ≠ 0 → tenancy.roster.LinkOf b x → tenancy.roster.LinkOf b y →
    tenancy.roster.ip x = tenancy.roster.ip y ∧
      ∀ a, Routed (tenancy.deed x).route a ↔ Routed (tenancy.deed y).route a
  own : ∀ b x, b ≠ 0 → tenancy.roster.LinkOf b x →
    (tenancy.deed x).Maps (tenancy.roster.ip x) (tenancy.roster.ip x)

end Tenancy

variable {st st' : State} {s : Nat}

theorem State.tenancy_roster : st.tenancy.roster = st.roster := rfl

theorem Nobody.outside {value : Nat} (nobody : Nobody value) :
    ¬ (0 < value ∧ value < maxSession) := by
  rintro ⟨some, fits⟩
  rcases nobody with zero | beyond
  · exact absurd zero (Nat.ne_of_gt some)
  · exact absurd fits (Nat.not_lt.mpr beyond)

variable {a : InAddr} {v : Nat}

theorem Strung.resolves (strung : Strung st) {x : Nat} (used : (st.session x).opened ≠ 0) :
    sessionbyip st a = x ↔ lookupIpmap st.ipHash a = x := by
  obtain ⟨some, fits, _⟩ := strung.inUse x used
  rw [sessionbyip]
  constructor
  · intro found
    split at found
    · exact found
    · exact absurd found.symm (Nat.ne_of_gt some)
  · intro named
    rw [named, if_pos ⟨some, fits, used⟩]

theorem Nobody.unresolved (nobody : Nobody (lookupIpmap st.ipHash a)) : sessionbyip st a = 0 := by
  rw [sessionbyip, if_neg]
  exact fun both => nobody.outside ⟨both.1, both.2.1⟩

theorem hostPatch_covers {ip : InAddr} {v : Int} (covered : (routePatch ip 0 v).covers a = true) :
    a = ip := by
  have bits : hostBits 0 = 0 := rfl
  have bound := ip.toNat_lt
  simp only [routePatch, routeCount, routeBase, bits, Nat.pow_zero, Nat.div_one, Nat.mul_one,
    UInt32.ofNat_toNat, decide_eq_true_eq] at covered
  apply UInt32.toNat_inj.mp
  omega

theorem Deed.Maps.cases {deed : Deed} {ip : InAddr} (maps : deed.Maps ip a) :
    Routed deed.route a ∨ a = ip := by
  refine maps.imp_right fun address => ?_
  split at address
  · exact hostPatch_covers address.2
  · exact address

theorem ownPatches_covers (maps : (st.session s).deed.Maps (st.session s).ip a) :
    Patch.last (ownPatches st s true) a ≠ none := by
  rcases maps with ⟨route, member, covered⟩ | address
  · have written : routePatch route.ip route.prefixlen 0 ∈ ownPatches st s true := by
      simp only [ownPatches, routePatches, if_true]
      exact List.mem_append_left _ (List.mem_map_of_mem member)
    exact Patch.last_ne_none written covered
  · by_cases static : (st.session s).deed.index = -1
    · rw [if_pos static] at address
      have index : (st.session s).ipPoolIndex = -1 := static
      have written : routePatch (st.session s).ip 0 0 ∈ ownPatches st s true := by
        simp only [ownPatches, if_true, index]
        apply List.mem_append_right
        have uncovered : ¬ (st.session s).route.any (·.covers (st.session s).ip) := by
          rw [show (st.session s).route.any (·.covers (st.session s).ip) = false from address.1]
          simp
        rw [if_pos ⟨uncovered, trivial⟩]
        exact List.mem_singleton_self _
      exact Patch.last_ne_none written address.2
    · rw [if_neg static] at address
      have index : ¬ (st.session s).ipPoolIndex = -1 := static
      have written : addressPatch (st.session s).ip (-((st.session s).ipPoolIndex.toNat : Int)) ∈
          ownPatches st s true := by
        simp only [ownPatches, if_neg index]
        exact List.mem_append_right _ (List.mem_singleton_self _)
      exact Patch.last_ne_none written (decide_eq_true address)

theorem ownPatches_value {delRoutes : Bool}
    (found : Patch.last (ownPatches st s delRoutes) a = some v) :
    v = 0 ∨ (st.session s).ipPoolIndex ≠ -1 ∧ v = pooled (st.session s).ipPoolIndex := by
  obtain ⟨patch, member, _, rfl⟩ := Patch.exists_of_last found
  simp only [ownPatches] at member
  rw [List.mem_append] at member
  rcases member with routes | address
  · split at routes
    · obtain ⟨route, _, rfl⟩ := List.mem_map.mp routes
      exact .inl rfl
    · exact absurd routes List.not_mem_nil
  · split at address
    · split at address
      · rw [List.mem_singleton.mp address]
        exact .inl rfl
      · exact absurd address List.not_mem_nil
    · rename_i pool
      rw [List.mem_singleton.mp address]
      exact .inr ⟨pool, rfl⟩

theorem ownPatches_maps {delRoutes : Bool}
    (found : Patch.last (ownPatches st s delRoutes) a = some v) :
    Routed (st.session s).route a ∨ a = (st.session s).ip := by
  obtain ⟨patch, member, covered, _⟩ := Patch.exists_of_last found
  simp only [ownPatches] at member
  rw [List.mem_append] at member
  rcases member with routes | address
  · split at routes
    · obtain ⟨route, member, rfl⟩ := List.mem_map.mp routes
      exact .inl ⟨route, member, covered⟩
    · exact absurd routes List.not_mem_nil
  · split at address
    · split at address
      · rw [List.mem_singleton.mp address] at covered
        exact .inr (hostPatch_covers covered)
      · exact absurd address List.not_mem_nil
    · rw [List.mem_singleton.mp address] at covered
      exact .inr (of_decide_eq_true covered)

/-- What an heir takes over names it. -/
theorem heirPatches_value (small : s < maxSession)
    (found : Patch.last (heirPatches st s) a = some v) :
    v = s ∧ (Routed (st.session s).route a ∨ a = (st.session s).ip) := by
  have number : ((s : Int) % 2 ^ 16).toNat = s := by
    have bound : maxSession = 60000 := rfl
    omega
  obtain ⟨patch, member, covered, rfl⟩ := Patch.exists_of_last found
  rw [heirPatches, List.mem_append] at member
  rcases member with routes | address
  · obtain ⟨route, member, rfl⟩ := List.mem_map.mp routes
    exact ⟨number, .inl ⟨route, member, covered⟩⟩
  · rw [List.mem_singleton.mp address] at covered ⊢
    exact ⟨number, .inr (of_decide_eq_true covered)⟩

theorem heirPatches_covers (routed : Routed (st.session s).route a ∨ a = (st.session s).ip) :
    Patch.last (heirPatches st s) a ≠ none := by
  rcases routed with ⟨route, member, covered⟩ | address
  · have written : routePatch route.ip route.prefixlen s ∈ heirPatches st s :=
      List.mem_append_left _ (List.mem_map_of_mem member)
    exact Patch.last_ne_none written covered
  · have written : addressPatch (st.session s).ip s ∈ heirPatches st s :=
      List.mem_append_right _ (List.mem_singleton_self _)
    exact Patch.last_ne_none written (decide_eq_true address)

/-- How the first link of a bundle changes when a link leaves. -/
inductive Succeeds (st : State) (s b : Nat) : Prop where
  | last (alone : (st.bundle b).numOfLinks = 1) (none : heir st s b = none)
  | moves (x : Nat) (others : (st.bundle b).numOfLinks ≠ 1) (first : (st.bundle b).members 0 = s)
      (other : x ≠ s) (link : st.roster.LinkOf b x) (heir : heir st s b = some x)
      (follows : (dropLink st.bundle s b b).members 0 = x)
  | stays (others : (st.bundle b).numOfLinks ≠ 1) (first : (st.bundle b).members 0 ≠ s)
      (none : heir st s b = none)
      (follows : (dropLink st.bundle s b b).members 0 = (st.bundle b).members 0)

theorem Roster.Sound.succeeds (sound : st.roster.Sound) {b : Nat} (real : b ≠ 0)
    (link : st.roster.LinkOf b s) : Succeeds st s b := by
  have listed := sound.listed b (sound.isOpen real link)
  have twelve : maxBundleSes = 12 := rfl
  have some : 1 ≤ (st.bundle b).numOfLinks := listed.some
  have room : (st.bundle b).numOfLinks ≤ maxBundleSes := listed.room
  obtain ⟨count, links⟩ : ∃ count, (st.bundle b).numOfLinks = count + 1 :=
    ⟨(st.bundle b).numOfLinks - 1, by omega⟩
  have left : ((st.bundle b).numOfLinks + 255) % 2 ^ 8 = count := by omega
  have lists : Lists (st.bundle b).members (count + 1) (st.roster.LinkOf b) := by
    rw [← links]
    exact listed.lists
  have found : heir st s b = if b = 0 ∨ count = 0 ∨ (st.bundle b).members count = s ∨
      memberPosition (st.bundle b).members s count ≠ 0 then none
      else Option.some ((st.bundle b).members count) := by
    simp only [heir, left]
  have dropped : dropLink st.bundle s b b =
      if count = 0 then .zero
      else if (st.bundle b).members count = s then { st.bundle b with numOfLinks := count }
      else { st.bundle b with
        numOfLinks := count
        members := update (st.bundle b).members
          (memberPosition (st.bundle b).members s count) ((st.bundle b).members count) } := by
    simp only [dropLink, left, if_neg real]
    split_ifs <;> exact update_self ..
  by_cases alone : count = 0
  · refine .last (by omega) ?_
    rw [found, if_pos (.inr (.inl alone))]
  have others : (st.bundle b).numOfLinks ≠ 1 := by omega
  rw [if_neg alone] at dropped
  by_cases end_ : (st.bundle b).members count = s
  · rw [if_pos end_] at dropped
    refine .stays others (fun first => ?_) ?_ (by rw [dropped])
    · exact alone (lists.distinct 0 count (by omega) (by omega) (first.trans end_.symm)).symm
    · rw [found, if_pos (.inr (.inr (.inl end_)))]
  rw [if_neg end_] at dropped
  obtain ⟨i, below, held⟩ := (lists.complete s).mp link
  have before : i < count := by
    by_contra beyond
    rw [show i = count by omega] at held
    exact end_ held
  obtain ⟨inside, position⟩ := @memberPosition_spec (st.bundle b).members _ _ before
  rw [held] at inside position
  by_cases first : memberPosition (st.bundle b).members s count = 0
  · rw [first] at position dropped
    refine .moves ((st.bundle b).members count) others position end_ ?_ ?_ ?_
    · exact lists.holds (Nat.lt_succ_self count)
    · rw [found, if_neg]
      exact fun either => either.elim real fun either => either.elim alone fun either =>
        either.elim end_ fun moved => moved first
    · rw [dropped]
      dsimp only
      exact update_self ..
  · refine .stays others (fun same => ?_) ?_ ?_
    · exact first (lists.distinct _ 0 (Nat.lt_succ_of_lt inside) (Nat.succ_pos count)
        (position.trans same.symm))
    · rw [found, if_pos (.inr (.inr (.inr first)))]
    · rw [dropped]
      dsimp only
      exact update_of_ne (Ne.symm first) ..

/-- Among the sessions only this one has changed. -/
structure OnlySession (s : Nat) (st st' : State) : Prop where
  others : ∀ x, x ≠ s → st'.session x = st.session x

theorem OnlySession.trans {st'' : State} (first : OnlySession s st st')
    (second : OnlySession s st' st'') : OnlySession s st st'' :=
  ⟨fun x other => (second.others x other).trans (first.others x other)⟩

theorem OnlySession.of_same (same : st'.session = st.session) : OnlySession s st st' :=
  ⟨fun x _ => congrFun same x⟩

theorem OnlySession.emit (only : OnlySession s st st') (effect : Effect) :
    OnlySession s st (st'.emit effect) :=
  ⟨only.others⟩

theorem setSession_only (change : Session → Session) :
    OnlySession s st (st.setSession s change) :=
  ⟨fun _ other => State.setSession_other other change⟩

theorem throttleSession_only (s : Nat) (rateIn rateOut : Int) :
    OnlySession s st (throttleSession st s rateIn rateOut) := by
  rw [throttleSession]
  split
  · exact OnlySession.of_same rfl
  · exact (setSession_only _).emit _

theorem finishShutdown_only (s cdnResult cdnError : Nat) :
    OnlySession s st (finishShutdown st s cdnResult cdnError) := by
  have throttled (st : State) : OnlySession s st (unthrottle st s) := by
    rw [unthrottle]
    split
    · exact throttleSession_only ..
    · exact OnlySession.of_same rfl
  have told (st : State) : OnlySession s st (sendCdn st s cdnResult cdnError) := by
    apply OnlySession.of_same
    rw [sendCdn]
    split_ifs <;> rfl
  have unused (st : State) (filter : Nat) : OnlySession s st (unuseFilter st filter) :=
    OnlySession.of_same (unuseFilter_session filter)
  have cleared (st : State) : OnlySession s st ((clearPpp st s).emit (.clusterSession s)) := by
    refine ⟨fun x other => ?_⟩
    rw [State.emit_session, clearPpp, State.setLocal_session]
    exact State.setSession_other other _
  simp only [finishShutdown]
  exact ((((throttled st).trans (told _)).trans (unused _ _)).trans (unused _ _)).trans (cleared _)

theorem dropRoutes_only (s b : Nat) (delRoutes : Bool) (termCause : Option TermCause) :
    OnlySession s st (dropRoutes st s b delRoutes termCause) := by
  rw [dropRoutes]
  split
  · refine ⟨fun x other => ?_⟩
    rw [leaveBundle_session, unroute6_other delRoutes other, unroute_other delRoutes other]
  · exact OnlySession.of_same rfl

/-- A shutdown changes the record of its session only. -/
theorem sessionshutdown_only (s : Nat) (reason : String) (cdnResult cdnError : Nat)
    (termCause : Option TermCause) :
    OnlySession s st (sessionshutdown st s reason cdnResult cdnError termCause) := by
  by_cases closed : (st.session s).opened = 0
  · rw [sessionshutdown, if_pos closed]
    exact OnlySession.of_same rfl
  · have accounts : OnlySession s st (accounted st s reason termCause) := by
      refine ⟨fun x other => ?_⟩
      have session : (accounted st s reason termCause).session =
          update st.session s { st.session s with die := dieAfter st s } :=
        congrArg Estate.session (accounted_estate s reason termCause)
      rw [session, update_of_ne other]
    rw [sessionshutdown_eq reason cdnResult cdnError termCause closed]
    exact (accounts.trans (dropRoutes_only ..)).trans (finishShutdown_only ..)

namespace Tenancy

variable {tenancy tenancy' : Tenancy}

theorem Tenant.elsewhere {x : Nat} {a : InAddr} (tenant : tenancy.Tenant x a) (other : x ≠ s)
    (elsewhere : Roster.Elsewhere tenancy.roster tenancy'.roster s)
    (deed : tenancy'.deed x = tenancy.deed x)
    (first : tenancy.roster.bundle x ≠ 0 →
      (tenancy'.roster.links (tenancy.roster.bundle x)).members 0 = x) :
    tenancy'.Tenant x a := by
  refine ⟨(elsewhere.live other).mpr tenant.live, ?_, ?_, ?_⟩
  · rw [elsewhere.ip x other]
    exact tenant.addressed
  · rw [deed, elsewhere.ip x other]
    exact tenant.maps
  · rw [elsewhere.bundle x other]
    exact first

/-- A session changes that is no link of a bundle afterwards, and no cell names it any
more. -/
theorem Sound.close (sound : tenancy.Sound) (roster : tenancy'.roster.Sound)
    (elsewhere : Roster.Elsewhere tenancy.roster tenancy'.roster s)
    (unlinked : ∀ b, b ≠ 0 → ¬ tenancy'.roster.LinkOf b s)
    (deeds : ∀ x, x ≠ s → tenancy'.deed x = tenancy.deed x)
    (index : (tenancy'.deed s).index ≠ -1 → Nobody (pooled (tenancy'.deed s).index))
    (firsts : ∀ x, x ≠ s → tenancy.roster.Live x → tenancy.roster.bundle x ≠ 0 →
      (tenancy.roster.links (tenancy.roster.bundle x)).members 0 = x →
        (tenancy'.roster.links (tenancy.roster.bundle x)).members 0 = x)
    (cells : ∀ a, Nobody (tenancy'.cell a) ∨ tenancy'.Tenant (tenancy'.cell a) a ∨
      tenancy'.cell a = tenancy.cell a ∧ (tenancy.Tenant (tenancy.cell a) a → tenancy.cell a ≠ s)) :
    tenancy'.Sound := by
  have link : ∀ b x, b ≠ 0 → tenancy'.roster.LinkOf b x →
      x ≠ s ∧ tenancy.roster.LinkOf b x := by
    intro b x real link
    have other : x ≠ s := by
      rintro rfl
      exact unlinked b real link
    exact ⟨other, (elsewhere.linkOf other).mp link⟩
  refine ⟨roster, fun a => ?_, fun x indexed => ?_, fun b x y real first second => ?_,
    fun b x real member => ?_⟩
  · rcases cells a with nobody | tenant | ⟨kept, apart⟩
    · exact .inl nobody
    · exact .inr tenant
    · rw [kept]
      refine (sound.cells a).imp_right fun tenant => ?_
      have other := apart tenant
      refine tenant.elsewhere other elsewhere (deeds _ other) fun member => ?_
      exact firsts _ other tenant.live member (tenant.first member)
  · by_cases here : x = s
    · rw [here] at indexed ⊢
      exact index indexed
    · rw [deeds x here] at indexed ⊢
      exact sound.indexes x indexed
  · obtain ⟨other, first⟩ := link b x real first
    obtain ⟨other', second⟩ := link b y real second
    rw [elsewhere.ip x other, elsewhere.ip y other', deeds x other, deeds y other']
    exact sound.alike b x y real first second
  · obtain ⟨other, member⟩ := link b x real member
    rw [elsewhere.ip x other, deeds x other]
    exact sound.own b x real member

end Tenancy

theorem sessionshutdown_index (reason : String) (cdnResult cdnError : Nat)
    (termCause : Option TermCause) (x : Nat) :
    ((sessionshutdown st s reason cdnResult cdnError termCause).session x).ipPoolIndex =
      (st.session x).ipPoolIndex := by
  obtain same | taken := sessionshutdown_holding st s reason cdnResult cdnError termCause x
  · exact congrArg Holding.ipPoolIndex same
  · exact (congrArg Holding.ipPoolIndex taken :)

theorem Roster.Sound.alone (sound : st.roster.Sound) {b x : Nat} (real : b ≠ 0)
    (link : st.roster.LinkOf b s) (single : (st.bundle b).numOfLinks = 1)
    (other : st.roster.LinkOf b x) : x = s := by
  have listed := sound.listed b (sound.isOpen real link)
  have one : (st.roster.links b).count = 1 := single
  obtain ⟨i, below, held⟩ := (listed.lists.complete s).mp link
  obtain ⟨j, below', held'⟩ := (listed.lists.complete x).mp other
  rw [one] at below below'
  rw [← held, ← held', Nat.lt_one_iff.mp below, Nat.lt_one_iff.mp below']

theorem Roster.Sound.single (sound : st.roster.Sound) (real : b ≠ 0)
    (link : st.roster.LinkOf b s) (only : ∀ x, st.roster.LinkOf b x → x = s) :
    (st.bundle b).numOfLinks = 1 := by
  have listed := sound.listed b (sound.isOpen real link)
  have most : (st.roster.links b).count ≤ 1 := by
    by_contra more
    have first := only _ (listed.lists.holds (i := 0) (by omega))
    have second := only _ (listed.lists.holds (i := 1) (by omega))
    have same := listed.lists.distinct 0 1 (by omega) (by omega) (first.trans second.symm)
    exact nomatch same
  exact le_antisymm most listed.some

section Shutdown

variable {termCause : Option TermCause} (sound : st.tenancy.Sound) (strung : Strung st)
  (drops : Drops st s termCause)
include sound drops

theorem Tenancy.Sound.linked (real : (st.session s).bundle ≠ 0) :
    st.roster.LinkOf (st.session s).bundle s := by
  refine ⟨⟨drops.1, ?_⟩, rfl⟩
  by_contra dying
  exact drops.2.1 (sound.roster.gone s drops.1 dying real)

theorem Tenancy.Sound.firstStays {x : Nat} (other : x ≠ s) (live : st.roster.Live x)
    (first : (st.bundle (st.session x).bundle).members 0 = x) :
    (dropLink st.bundle s (st.session s).bundle (st.session x).bundle).members 0 = x := by
  by_cases unlinked : (st.session s).bundle = 0
  · simp only [dropLink, if_pos unlinked]
    exact first
  have link := sound.linked drops unlinked
  by_cases same : (st.session x).bundle = (st.session s).bundle
  · rw [same] at first ⊢
    cases sound.roster.succeeds unlinked link with
    | last alone _ =>
        exact absurd (sound.roster.alone unlinked link alone ⟨live, same⟩) other
    | moves _ _ first' => exact absurd (first.symm.trans first') other
    | stays _ _ _ follows => exact follows.trans first
  · have listed := sound.roster.listed _ (sound.roster.isOpen unlinked link)
    rw [(dropLink_lists unlinked listed.some listed.room listed.lists link).1 _ same]
    exact first

include strung in
/-- A cell after a shutdown: the address is given back, or mapped to the new first link of
the bundle, or it was not mapped to the session. -/
theorem Tenancy.Sound.shutdownCell (a : InAddr) :
    (∃ v, Patch.last (shutdownPatches st s termCause) a = some v ∧
      (Nobody v ∨ v ≠ s ∧ st.roster.LinkOf (st.session s).bundle v ∧ (st.session s).bundle ≠ 0 ∧
        ((st.session v).deed.Maps (st.session v).ip a) ∧
        (dropLink st.bundle s (st.session s).bundle (st.session s).bundle).members 0 = v)) ∨
    Patch.last (shutdownPatches st s termCause) a = none ∧ ¬ st.tenancy.Tenant s a := by
  have own : ∀ {v delRoutes}, Patch.last (ownPatches st s delRoutes) a = some v → Nobody v := by
    intro v delRoutes found
    rcases ownPatches_value found with zero | ⟨pool, index⟩
    · exact .inl zero
    · rw [index]
      exact sound.indexes s pool
  rw [shutdownPatches, if_pos drops, Patch.last_append]
  cases left : Patch.last (leavePatches st s (st.session s).bundle) a with
  | some v =>
      refine .inl ⟨v, rfl, .inr ?_⟩
      by_cases unlinked : (st.session s).bundle = 0
      · have none : heir st s (st.session s).bundle = none := by
          simp only [heir]
          exact if_pos (.inl unlinked)
        rw [leavePatches, none] at left
        cases left
      have link := sound.linked drops unlinked
      cases sound.roster.succeeds unlinked link with
      | last _ none | stays _ _ none =>
          rw [leavePatches, none] at left
          cases left
      | moves x _ _ other link' heir follows =>
          rw [leavePatches, heir] at left
          obtain ⟨same, routed⟩ := heirPatches_value (strung.inUse x link'.1.1).2.1 left
          rw [same]
          refine ⟨other, link', unlinked, ?_, follows⟩
          rcases routed with routed | address
          · exact .inl routed
          · rw [address]
            exact sound.own _ x unlinked link'
  | none =>
      rw [Option.none_or]
      cases given : Patch.last (ownPatches st s (lastLink st s)) a with
      | some v => exact .inl ⟨v, rfl, .inl (own given)⟩
      | none =>
          refine .inr ⟨rfl, fun tenant => ?_⟩
          have everything : lastLink st s = true → False := fun last => by
            rw [last] at given
            exact ownPatches_covers tenant.maps given
          by_cases unlinked : (st.session s).bundle = 0
          · exact everything (decide_eq_true (.inl unlinked))
          cases sound.roster.succeeds unlinked ⟨tenant.live, rfl⟩ with
          | last alone _ => exact everything (decide_eq_true (.inr alone))
          | stays _ first => exact first (tenant.first unlinked)
          | moves x _ _ _ link' heir _ =>
              obtain ⟨ip, routes⟩ := sound.alike _ s x unlinked ⟨tenant.live, rfl⟩ link'
              rw [leavePatches, heir] at left
              refine heirPatches_covers ?_ left
              exact tenant.maps.cases.imp (routes a).mp fun address => address.trans ip

end Shutdown

/-- A shutdown takes the session's cells back. -/
theorem Tenancy.Sound.sessionshutdown (sound : st.tenancy.Sound) (strung : Strung st)
    (awake : st.Awake) {termCause : Option TermCause} (cause : termCause ≠ some .callback)
    (reason : String) (cdnResult cdnError : Nat) :
    (sessionshutdown st s reason cdnResult cdnError termCause).tenancy.Sound := by
  by_cases closed : (st.session s).opened = 0
  · rw [Server.sessionshutdown, if_pos closed]
    exact sound
  have nonzero : s ≠ 0 := Nat.ne_of_gt (strung.inUse s closed).1
  obtain ⟨roster, dead⟩ := sound.roster.sessionshutdown awake (fun _ _ => cause) reason cdnResult
    cdnError (s := s)
  have after := @sessionshutdown_roster st s closed reason cdnResult cdnError termCause
  have patched := @sessionshutdown_patched st s nonzero reason cdnResult cdnError termCause
  have only := @sessionshutdown_only st s reason cdnResult cdnError termCause
  have index := @sessionshutdown_index st s reason cdnResult cdnError termCause s
  generalize Server.sessionshutdown st s reason cdnResult cdnError termCause = st'
    at roster dead after patched only index ⊢
  have elsewhere : Roster.Elsewhere st.tenancy.roster st'.tenancy.roster s := by
    rw [State.tenancy_roster, State.tenancy_roster, after]
    split
    · exact ⟨fun _ _ => rfl, fun x other => update_of_ne other .., fun _ _ => rfl,
        fun x other => update_of_ne other ..⟩
    · exact ⟨fun _ _ => rfl, fun x other => update_of_ne other .., fun _ _ => rfl,
        fun _ _ => rfl⟩
  have deeds : ∀ x, x ≠ s → st'.tenancy.deed x = st.tenancy.deed x :=
    fun x other => congrArg Session.deed (only.others x other)
  have pool : (st'.tenancy.deed s).index = (st.tenancy.deed s).index := index
  have indexed : (st'.tenancy.deed s).index ≠ -1 → Nobody (pooled (st'.tenancy.deed s).index) := by
    rw [pool]
    exact sound.indexes s
  by_cases drops : Drops st s termCause
  · rw [if_pos drops.2] at after
    have links : ∀ b, st'.tenancy.roster.links b =
        (dropLink st.bundle s (st.session s).bundle b).links := by
      rw [State.tenancy_roster, after]
      exact fun _ => rfl
    apply Tenancy.Sound.close sound roster elsewhere (fun _ _ link => dead link.1) deeds indexed
    · intro x other live _ first
      rw [links]
      exact sound.firstStays drops other live first
    · intro a
      have cell : st'.tenancy.cell a =
          Patch.applyAll (shutdownPatches st s termCause) st.tenancy.cell a := patched.cells a
      rw [Patch.applyAll] at cell
      rcases sound.shutdownCell strung drops a with ⟨v, found, written⟩ | ⟨none, apart⟩
      · rw [found, Option.getD_some] at cell
        rw [cell]
        refine written.imp_right fun taken => .inl ?_
        obtain ⟨other, link, real, maps, follows⟩ := taken
        have addressed : st.roster.ip v ≠ 0 :=
          sound.roster.addressed v link.1 (fun none => real (link.2.symm.trans none))
        refine ⟨(elsewhere.live other).mpr link.1, ?_, ?_, fun _ => ?_⟩
        · rw [elsewhere.ip v other]
          exact addressed
        · rw [deeds v other, elsewhere.ip v other]
          exact maps
        · rw [elsewhere.bundle v other, links, show st.tenancy.roster.bundle v = _ from link.2]
          exact follows
      · rw [none, Option.getD_none] at cell
        rw [cell]
        exact .inr (.inr ⟨rfl, fun tenant same => apart (same ▸ tenant)⟩)
  · have unaddressed : (st.session s).ip = 0 := by
      by_contra address
      exact drops ⟨closed, address, cause⟩
    rw [if_neg fun both => both.1 unaddressed] at after
    rw [shutdownPatches, if_neg drops] at patched
    apply Tenancy.Sound.close sound roster elsewhere (fun _ _ link => dead link.1) deeds indexed
    · intro x _ _ _ first
      rw [State.tenancy_roster, after]
      exact first
    · intro a
      refine .inr (.inr ⟨patched.cells a, fun tenant same => ?_⟩)
      exact tenant.addressed (by rw [same]; exact unaddressed)

theorem Tenancy.Sound.shutdown_spares (sound : st.tenancy.Sound) (strung : Strung st)
    (unrouted : ¬ Routed (st.session s).route a) (other : a ≠ (st.session s).ip)
    (reason : String) (cdnResult cdnError : Nat) (termCause : Option TermCause) :
    lookupIpmap (Server.sessionshutdown st s reason cdnResult cdnError termCause).ipHash a =
      lookupIpmap st.ipHash a := by
  by_cases closed : (st.session s).opened = 0
  · rw [Server.sessionshutdown, if_pos closed]
  have nonzero : s ≠ 0 := Nat.ne_of_gt (strung.inUse s closed).1
  have patched := @sessionshutdown_patched st s nonzero reason cdnResult cdnError termCause
  rw [patched.cells, Patch.applyAll]
  have none : Patch.last (shutdownPatches st s termCause) a = none := by
    rw [shutdownPatches]
    split
    · rename_i drops
      have own : Patch.last (ownPatches st s (lastLink st s)) a = Option.none := by
        by_contra found
        obtain ⟨v, given⟩ := Option.ne_none_iff_exists'.mp found
        exact (ownPatches_maps given).elim unrouted other
      have left : Patch.last (leavePatches st s (st.session s).bundle) a = Option.none := by
        by_cases unlinked : (st.session s).bundle = 0
        · have alone : heir st s (st.session s).bundle = Option.none := by
            simp only [heir]
            exact if_pos (.inl unlinked)
          rw [leavePatches, alone]
          rfl
        have link := sound.linked drops unlinked
        cases sound.roster.succeeds unlinked link with
        | last _ alone | stays _ _ alone =>
            rw [leavePatches, alone]
            rfl
        | moves x _ _ _ link' heir _ =>
            rw [leavePatches, heir]
            by_contra found
            obtain ⟨v, given⟩ := Option.ne_none_iff_exists'.mp found
            obtain ⟨ip, routes⟩ := sound.alike _ s x unlinked link link'
            rcases (heirPatches_value (strung.inUse x link'.1.1).2.1 given).2 with routed | address
            · exact unrouted ((routes a).mpr routed)
            · exact other (address.trans ip.symm)
      rw [Patch.last_append, own, left]
      rfl
    · rfl
  rw [none, Option.getD_none]

theorem tenancy_of_estate (same : st'.estate = st.estate) : st'.tenancy = st.tenancy := by
  have session : st'.session = st.session := congrArg Estate.session same
  have ipHash : st'.ipHash = st.ipHash := congrArg Estate.ipHash same
  simp only [State.tenancy, roster_of_estate same, session, ipHash]

theorem State.emit_tenancy (effect : Effect) : (st.emit effect).tenancy = st.tenancy := rfl

/-- A session that is cleared was not live, and no cell names it. -/
theorem Tenancy.Sound.sessionclear (sound : st.tenancy.Sound) (dead : ¬ st.roster.Live s)
    (nonzero : s ≠ 0) : (sessionclear st s).tenancy.Sound := by
  have roster := sound.roster.sessionclear dead
  have after := sessionclear_roster st s
  have session := sessionclear_session st nonzero
  have cell : (Server.sessionclear st s).tenancy.cell = st.tenancy.cell := rfl
  have own : (Server.sessionclear st s).tenancy.deed s = ⟨0, []⟩ := by
    have cleared : (Server.sessionclear st s).session s =
        { Session.zero with next := st.sessionfree } := by
      rw [session, update_of_ne nonzero, update_self]
    exact congrArg Session.deed cleared
  have others : ∀ x, x ≠ s → (Server.sessionclear st s).tenancy.deed x = st.tenancy.deed x := by
    intro x other
    have read : (Server.sessionclear st s).tenancy.deed x =
        ((Server.sessionclear st s).session x).deed := rfl
    rw [read, session, update_apply]
    split
    · rename_i head
      rw [head]
      rfl
    · rw [update_of_ne other]
      rfl
  have elsewhere : Roster.Elsewhere st.tenancy.roster
      (Server.sessionclear st s).tenancy.roster s := by
    rw [State.tenancy_roster, State.tenancy_roster, after]
    exact ⟨fun _ other => update_of_ne other ..,
      fun _ other => update_of_ne other ..,
      fun _ other => update_of_ne other ..,
      fun _ other => update_of_ne other ..⟩
  have closed : ¬ (Server.sessionclear st s).tenancy.roster.Live s := by
    rw [State.tenancy_roster, after]
    exact fun live => live.1 (update_self ..)
  refine Tenancy.Sound.close sound roster elsewhere (fun _ _ link => closed link.1) others ?_ ?_ ?_
  · rw [own]
    exact fun _ => .inl rfl
  · intro x _ _ _ first
    rw [State.tenancy_roster, after]
    exact first
  · intro a
    rw [cell]
    exact .inr (.inr ⟨rfl, fun tenant same => dead (same ▸ tenant.live)⟩)

theorem sessionkill_same (inactive : (st.session s).opened = 0 ∨ (st.session s).next ≠ 0)
    (reason : Option String) (termCause : Option TermCause) :
    sessionkill st s reason termCause = st := by
  simp only [sessionkill]
  rcases inactive with closed | listed
  · rw [if_pos closed]
  · by_cases closed : (st.session s).opened = 0
    · rw [if_pos closed]
    · rw [if_neg closed, if_pos listed]

theorem sessionkill_eq (opened : (st.session s).opened ≠ 0) (free : (st.session s).next = 0)
    (reason : Option String) (termCause : Option TermCause) :
    sessionkill st s reason termCause =
      (sessionclear (shutLinked (releaseSlot (shutForKill st s reason termCause) s) s reason)
        s).emit (.clusterSession s) := by
  simp only [sessionkill]
  rw [if_neg opened, if_neg (not_not.mpr free)]

theorem Tenancy.Sound.shutForKill (sound : st.tenancy.Sound) (strung : Strung st)
    (awake : st.Awake) {termCause : Option TermCause} (cause : termCause ≠ some .callback)
    (reason : Option String) : (shutForKill st s reason termCause).tenancy.Sound := by
  rw [Server.shutForKill]
  split
  · exact sound.sessionshutdown strung awake cause ..
  · exact sound

theorem Tenancy.Sound.shutLinked (sound : st.tenancy.Sound) (strung : Strung st)
    (awake : st.Awake) (reason : Option String) : (shutLinked st s reason).tenancy.Sound := by
  simp only [Server.shutLinked]
  split
  · exact sound.sessionshutdown strung awake (by decide) ..
  · exact sound

/-- A kill takes the session's cells back. -/
theorem Tenancy.Sound.sessionkill (sound : st.tenancy.Sound) (strung : Strung st)
    (awake : st.Awake) {termCause : Option TermCause} (cause : termCause ≠ some .callback)
    (reason : Option String) : (sessionkill st s reason termCause).tenancy.Sound := by
  by_cases inactive : (st.session s).opened = 0 ∨ (st.session s).next ≠ 0
  · rw [sessionkill_same inactive]
    exact sound
  rw [not_or, not_not] at inactive
  have nonzero : s ≠ 0 := Nat.ne_of_gt (strung.inUse s inactive.1).1
  rw [sessionkill_eq inactive.1 inactive.2, State.emit_tenancy]
  have shut := sound.shutForKill (s := s) strung awake cause reason
  have dead := (sound.roster.shutForKill (s := s) awake (fun _ _ => cause) reason).2
  have kept := @shutForKill_kept st s reason termCause
  have clock := @shutForKill_time st s reason termCause
  generalize Server.shutForKill st s reason termCause = shutdown at shut dead kept clock ⊢
  have released := @releaseSlot_estate shutdown s
  rw [← tenancy_of_estate released] at shut
  rw [← roster_of_estate released] at dead
  have kept' := kept.trans (Kept.of_estate released)
  have clock' : (releaseSlot shutdown s).time = st.time :=
    (congrArg Estate.time released).trans clock
  generalize releaseSlot shutdown s = released at shut dead kept' clock' ⊢
  have awake' : released.Awake := by
    rw [State.Awake, clock']
    exact awake
  have linked := shut.shutLinked (s := s) ((SameList.of_kept kept').strung strung) awake' reason
  have gone := (shut.roster.shutLinked awake' dead reason).2
  exact linked.sessionclear gone nonzero

/-- A session that is opened has no cells. -/
theorem Tenancy.Sound.openSession (sound : st.tenancy.Sound) (closed : (st.session s).opened = 0)
    (t : Nat) : (openSession st s t).tenancy.Sound := by
  have session := openSession_session st s t
  have roster := sound.roster.aside (openSession_aside closed t)
  have own : (Server.openSession st s t).session s = opening st t := by
    rw [session, update_self]
  have others : ∀ x, x ≠ s → (Server.openSession st s t).session x = st.session x ∨
      (Server.openSession st s t).session x =
        { st.session x with next := (st.session s).next } := by
    intro x other
    rw [session, update_of_ne other, update_apply]
    split
    · rename_i head
      rw [head]
      exact .inr rfl
    · exact .inl rfl
  have same {β : Type} (read : Session → β)
      (relinks : ∀ (session : Session) (next : Nat),
        read { session with next := next } = read session) (x : Nat) (other : x ≠ s) :
      read ((Server.openSession st s t).session x) = read (st.session x) := by
    rcases others x other with same | same <;> rw [same]
    exact relinks ..
  have elsewhere : Roster.Elsewhere st.tenancy.roster
      (Server.openSession st s t).tenancy.roster s :=
    ⟨same Session.opened fun _ _ => rfl, same Session.die fun _ _ => rfl,
      same Session.bundle fun _ _ => rfl, same Session.ip fun _ _ => rfl⟩
  have deed : (Server.openSession st s t).tenancy.deed s = ⟨0, []⟩ :=
    congrArg Session.deed own
  have bundle : (Server.openSession st s t).tenancy.roster.bundle s = 0 :=
    congrArg Session.bundle own
  refine Tenancy.Sound.close sound roster elsewhere ?_ (same Session.deed fun _ _ => rfl) ?_ ?_ ?_
  · exact fun b real link => real (link.2.symm.trans bundle)
  · rw [deed]
    exact fun _ => .inl rfl
  · exact fun _ _ _ _ first => first
  · exact fun a => .inr (.inr ⟨rfl, fun tenant same => tenant.live.1 (same ▸ closed)⟩)

/-- What the rest of the server does to the sessions: it opens and closes none, moves none to
another bundle, and writes nothing to the map. RADIUS gives addresses that are not of the
pool. -/
structure Beside (st st' : State) : Prop where
  aside : Aside st st'
  ipHash : st'.ipHash = st.ipHash
  highest : st'.highestSessionid = st.highestSessionid
  clock : st'.timeNow ≠ 0
  next : ∀ x, (st'.session x).next = (st.session x).next
  opened : ∀ x, (st'.session x).opened = (st.session x).opened
  die : ∀ x, (st'.session x).die = (st.session x).die
  bundle : ∀ x, (st'.session x).bundle = (st.session x).bundle
  index : ∀ x, (st'.session x).ipPoolIndex = (st.session x).ipPoolIndex ∨
    (st'.session x).ipPoolIndex = -1

/-- The map names a session, or it is a link of a bundle. -/
def Seated (st : State) (x : Nat) : Prop :=
  (st.session x).bundle ≠ 0 ∨ ∃ a, lookupIpmap st.ipHash a = x

/-- Sessions that have their cells, and links, keep the address and the routes. -/
def KeepsAddresses (st st' : State) : Prop :=
  ∀ x, st.roster.Live x → Seated st x →
    (st'.session x).ip = (st.session x).ip ∧ (st'.session x).deed = (st.session x).deed

theorem Tenancy.Sound.beside (sound : st.tenancy.Sound) (beside : Beside st st')
    (keeps : KeepsAddresses st st') : st'.tenancy.Sound := by
  have live : ∀ x, st'.tenancy.roster.Live x ↔ st.tenancy.roster.Live x := by
    intro x
    rw [State.tenancy_roster, State.tenancy_roster, Roster.Live, Roster.Live]
    simp only [State.roster, beside.opened, beside.die]
  have link : ∀ b x, st'.tenancy.roster.LinkOf b x ↔ st.tenancy.roster.LinkOf b x := by
    intro b x
    rw [Roster.LinkOf, Roster.LinkOf, live]
    simp only [State.tenancy_roster, State.roster, beside.bundle]
  have member : ∀ b x, b ≠ 0 → st.tenancy.roster.LinkOf b x →
      st'.tenancy.roster.ip x = st.tenancy.roster.ip x ∧
        st'.tenancy.deed x = st.tenancy.deed x :=
    fun b x real link => keeps x link.1 (.inl fun none => real (link.2.symm.trans none))
  have cell : st'.tenancy.cell = st.tenancy.cell := congrArg lookupIpmap beside.ipHash
  have links : ∀ b, st'.tenancy.roster.links b = st.tenancy.roster.links b := beside.aside.links
  refine ⟨sound.roster.aside beside.aside, fun a => ?_, fun x indexed => ?_,
    fun b x y real first second => ?_, fun b x real linked => ?_⟩
  · rw [cell]
    refine (sound.cells a).imp_right fun tenant => ?_
    obtain ⟨ip, deed⟩ : st'.tenancy.roster.ip (st.tenancy.cell a) =
        st.tenancy.roster.ip (st.tenancy.cell a) ∧
        st'.tenancy.deed (st.tenancy.cell a) = st.tenancy.deed (st.tenancy.cell a) :=
      keeps _ tenant.live (.inr ⟨a, rfl⟩)
    have bundle : st'.tenancy.roster.bundle (st.tenancy.cell a) =
      st.tenancy.roster.bundle (st.tenancy.cell a) := beside.bundle _
    refine ⟨(live _).mpr tenant.live, ?_, ?_, ?_⟩
    · rw [ip]
      exact tenant.addressed
    · rw [ip, deed]
      exact tenant.maps
    · rw [bundle, links]
      exact tenant.first
  · have index : (st'.tenancy.deed x).index = (st.tenancy.deed x).index ∨
      (st'.tenancy.deed x).index = -1 := beside.index x
    rcases index with same | static
    · rw [same] at indexed ⊢
      exact sound.indexes x indexed
    · exact absurd static indexed
  · rw [link] at first second
    obtain ⟨ip, deed⟩ := member b x real first
    obtain ⟨ip', deed'⟩ := member b y real second
    rw [ip, ip', deed, deed']
    exact sound.alike b x y real first second
  · rw [link] at linked
    obtain ⟨ip, deed⟩ := member b x real linked
    rw [ip, deed]
    exact sound.own b x real linked

end L2tpns.Server
