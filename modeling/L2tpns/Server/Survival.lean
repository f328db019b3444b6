import L2tpns.Server.Exclusive

/-! # The address of a bundle, and its links

A link that is shut down gives its address back as a session of its own would: one with an
entry of the pool unmaps the address of the bundle, also if other links are left. Only if it
was the first link is the address mapped again. So the address outlives the links exactly if
none that is shut down before the last one has such an entry, or only the first one has one
that is not of the address (`L2tpns.Server.address_survives_iff`).
-/

namespace L2tpns.Server

open Foundation

variable {st st' : State} {s b : Nat}

/-- The pool after a session gave its address back. -/
def poolWithout (st : State) (s : Nat) : Nat → IpPool :=
  let i := (st.session s).ipPoolIndex
  if i = -1 then st.ipAddressPool
  else Function.update st.ipAddressPool i.toNat
    { st.ipAddressPool i.toNat with assigned := false, session := 0, last := st.timeNow }

theorem routesetAll_pool (s : Nat) (add : Bool) (routes : List Route) (st : State) :
    (routesetAll st s add routes).ipAddressPool = st.ipAddressPool := by
  induction routes generalizing st with
  | nil => rfl
  | cons route routes ih =>
      rw [routesetAll, ih, routeset]
      split <;> rfl

theorem unroute_pool (addressed : (st.session s).ip ≠ 0) (delRoutes : Bool) :
    (unroute st s delRoutes).ipAddressPool = poolWithout st s := by
  have deletes : (if delRoutes then routesetAll st s false (st.session s).route
      else st).ipAddressPool = st.ipAddressPool := by
    split
    · exact routesetAll_pool ..
    · rfl
  have session : (if delRoutes then routesetAll st s false (st.session s).route
      else st).session = st.session := by
    split
    · exact routesetAll_session ..
    · rfl
  have clock : (if delRoutes then routesetAll st s false (st.session s).route
      else st).timeNow = st.timeNow := by
    split
    · exact congrArg Books.timeNow (routesetAll_books ..)
    · rfl
  simp only [unroute, poolWithout]
  generalize (if delRoutes then routesetAll st s false (st.session s).route else st) = deleted
    at deletes session clock ⊢
  split
  · split
    · rw [routeset]
      split <;> exact deletes
    · exact deletes
  · have own : ((deleted.setSession s fun session => { session with route := [] }).session s) =
        { st.session s with route := [] } := by
      rw [State.setSession_same, session]
    simp only [freeIpAddress]
    rw [own]
    dsimp only
    rw [if_neg addressed, ← clock, ← deletes]
    rfl

theorem takeOver_pool (s : Nat) : (takeOver st s).ipAddressPool = st.ipAddressPool := by
  have cached (routes : List Route6) (st : State) :
      (routes.foldl (fun st route =>
        st.cacheIp6 route.ipv6route route.ipv6prefixlen s) st).ipAddressPool =
        st.ipAddressPool := by
    induction routes generalizing st with
    | nil => rfl
    | cons route routes ih => rw [List.foldl_cons, ih, State.cacheIp6]
  simp only [takeOver]
  split
  · exact (cached ..).trans rfl
  · exact (cached ..).trans rfl

theorem leaveBundle_pool (s b : Nat) :
    (leaveBundle st s b).ipAddressPool = st.ipAddressPool := by
  simp only [leaveBundle]
  split_ifs
  · rfl
  · rfl
  · rfl
  · exact (takeOver_pool _).trans rfl
  · rfl

theorem sessionshutdown_pool {termCause : Option TermCause} (drops : Drops st s termCause)
    (reason : String) (cdnResult cdnError : Nat) :
    (sessionshutdown st s reason cdnResult cdnError termCause).ipAddressPool =
      poolWithout st s := by
  have accounts := @accounted_estate st s reason termCause
  have own := @accounted_session st s reason termCause
  have pool : (accounted st s reason termCause).ipAddressPool = st.ipAddressPool :=
    congrArg Estate.ipAddressPool accounts
  have clock : (accounted st s reason termCause).timeNow = st.timeNow :=
    congrArg Estate.timeNow accounts
  rw [sessionshutdown_eq reason cdnResult cdnError termCause drops.1]
  refine (congrArg Ledger.ipAddressPool (finishShutdown_ledger s cdnResult cdnError)).trans ?_
  generalize accounted st s reason termCause = marked at own pool clock
  have addressed : (marked.session s).ip ≠ 0 := by
    rw [own]
    exact drops.2.1
  have same : poolWithout marked s = poolWithout st s := by
    simp only [poolWithout, own, pool, clock]
  rw [← same]
  change (dropRoutes marked s _ _ termCause).ipAddressPool = poolWithout marked s
  rw [dropRoutes, if_pos ⟨addressed, drops.2.2⟩, leaveBundle_pool]
  exact (congrArg Ledger.ipAddressPool (unroute6_ledger ..)).trans (unroute_pool addressed _)

/-- An address of a bundle: that of its links, or one of their routes. -/
def AddressOf (st : State) (b : Nat) (a : InAddr) : Prop :=
  ∃ x, st.roster.LinkOf b x ∧ (a = (st.session x).ip ∨ Routed (st.session x).route a)

/-- The entry of the pool that a session has is that of its address. -/
def OwnsEntry (st : State) (x : Nat) : Prop :=
  (st.session x).ipPoolIndex ≠ -1 ∧
    (st.ipAddressPool (st.session x).ipPoolIndex.toNat).address = (st.session x).ip

/-- The entry is given to a session. -/
def EntryAssigned (st : State) (i : Int) : Prop := (st.ipAddressPool i.toNat).assigned = true

/-- The addresses that the bundle had in `st` resolve to a live link in `st'`, and its entry
of the pool is not free. -/
structure Serves (st st' : State) (b : Nat) : Prop where
  resolves : ∀ a, AddressOf st b a → st'.roster.LinkOf b (sessionbyip st' a)
  assigned : ∀ x, st.roster.LinkOf b x → OwnsEntry st x →
    EntryAssigned st' (st.session x).ipPoolIndex

/-- The addresses that the bundle had in `st` do not resolve in `st'`, and its entry of the
pool is free. -/
structure GivenBack (st st' : State) (b : Nat) : Prop where
  unresolved : ∀ a, AddressOf st b a → sessionbyip st' a = 0
  free : ∀ x, st.roster.LinkOf b x → OwnsEntry st x →
    ¬ EntryAssigned st' (st.session x).ipPoolIndex

/-- A link has no entry of the pool to give back, or it is the first link and its entry is
not that of the address. -/
def Yields (st : State) (b s : Nat) : Prop :=
  (st.session s).ipPoolIndex = -1 ∨ (st.bundle b).members 0 = s ∧ ¬ OwnsEntry st s

theorem Tenanted.first (tenanted : Tenanted st) (real : b ≠ 0) {a : InAddr}
    (link : st.roster.LinkOf b (sessionbyip st a)) :
    lookupIpmap st.ipHash a = (st.bundle b).members 0 ∧
      sessionbyip st a = (st.bundle b).members 0 := by
  have named := (tenanted.strung.resolves link.1.1).mp rfl
  rcases tenanted.tenancy.cells a with nobody | tenant
  · have none := Nobody.unresolved nobody
    rw [none] at link
    exact absurd tenanted.strung.unopened link.1.1
  · have cell : st.tenancy.cell a = sessionbyip st a := named
    have first := tenant.first
    rw [cell, show st.tenancy.roster.bundle (sessionbyip st a) = b from link.2] at first
    have same : (st.bundle b).members 0 = sessionbyip st a := first real
    exact ⟨named.trans same.symm, same.symm⟩

theorem Tenanted.addressOf (tenanted : Tenanted st) (real : b ≠ 0) (link : st.roster.LinkOf b s)
    {a : InAddr} :
    AddressOf st b a ↔ a = (st.session s).ip ∨ Routed (st.session s).route a := by
  constructor
  · rintro ⟨x, link', address⟩
    obtain ⟨same, routes⟩ := tenanted.tenancy.alike b x s real link' link
    have ip : (st.session x).ip = (st.session s).ip := same
    exact address.imp (fun same => same.trans ip) (routes a).mp
  · exact fun address => ⟨s, link, address⟩

/-- A link of a bundle is shut down. -/
structure Loss where
  link : Nat
  reason : String
  cdnResult : Nat
  cdnError : Nat
  termCause : Option TermCause

def Loss.perform (st : State) (loss : Loss) : State :=
  sessionshutdown st loss.link loss.reason loss.cdnResult loss.cdnError loss.termCause

section Loss

variable {loss : Loss} (tenanted : Tenanted st) (real : b ≠ 0)
  (link : st.roster.LinkOf b loss.link) (cause : loss.termCause ≠ some .callback)
include tenanted real link cause

theorem Tenanted.lossDrops : Drops st loss.link loss.termCause := by
  have addressed := tenanted.tenancy.roster.addressed loss.link link.1
    fun none => real (link.2.symm.trans none)
  exact ⟨link.1.1, addressed, cause⟩

theorem Tenanted.lossCell (a : InAddr) :
    lookupIpmap (loss.perform st).ipHash a =
      ((Patch.last (leavePatches st loss.link b) a).or
        (Patch.last (ownPatches st loss.link (lastLink st loss.link)) a)).getD
          (lookupIpmap st.ipHash a) := by
  have drops := tenanted.lossDrops real link cause
  have nonzero : loss.link ≠ 0 := Nat.ne_of_gt (tenanted.strung.inUse _ link.1.1).1
  have patched := @sessionshutdown_patched st loss.link nonzero loss.reason loss.cdnResult
    loss.cdnError loss.termCause
  rw [Loss.perform, patched.cells, Patch.applyAll, shutdownPatches, if_pos drops,
    Patch.last_append, show (st.session loss.link).bundle = b from link.2]

omit real link in
theorem Tenanted.lossLinks (awake : st.Awake) (x : Nat) :
    (loss.perform st).roster.LinkOf b x ↔ x ≠ loss.link ∧ st.roster.LinkOf b x := by
  have only := @sessionshutdown_only st loss.link loss.reason loss.cdnResult loss.cdnError
    loss.termCause
  have dead := (tenanted.tenancy.roster.sessionshutdown awake (fun _ _ => cause) loss.reason
    loss.cdnResult loss.cdnError (s := loss.link)).2
  change ¬ (loss.perform st).roster.Live loss.link at dead
  change OnlySession loss.link st (loss.perform st) at only
  generalize loss.perform st = st' at only dead ⊢
  have same : ∀ y, y ≠ loss.link → (st'.roster.LinkOf b y ↔ st.roster.LinkOf b y) := by
    intro y other
    change (((st'.session y).opened ≠ 0 ∧ (st'.session y).die = 0) ∧ (st'.session y).bundle = b) ↔
      ((st.session y).opened ≠ 0 ∧ (st.session y).die = 0) ∧ (st.session y).bundle = b
    rw [only.others y other]
  by_cases here : x = loss.link
  · rw [here]
    exact ⟨fun link => absurd link.1 dead, fun both => absurd rfl both.1⟩
  · rw [same x here]
    exact ⟨fun link => ⟨here, link⟩, fun both => both.2⟩

omit tenanted cause in
theorem Tenanted.lossOwn (others : (st.bundle b).numOfLinks ≠ 1) (a : InAddr) :
    Patch.last (ownPatches st loss.link (lastLink st loss.link)) a =
      if (st.session loss.link).ipPoolIndex ≠ -1 ∧ a = (st.session loss.link).ip then
        some (pooled (st.session loss.link).ipPoolIndex)
      else none := by
  have bundle : (st.session loss.link).bundle = b := link.2
  have left : lastLink st loss.link = false := by
    rw [lastLink, bundle]
    exact decide_eq_false fun either => either.elim real others
  rw [left]
  simp only [ownPatches]
  rw [if_neg (by simp), List.nil_append]
  by_cases static : (st.session loss.link).ipPoolIndex = -1
  · have kept : ¬ ((st.session loss.link).ipPoolIndex ≠ -1 ∧ a = (st.session loss.link).ip) :=
      fun both => both.1 static
    rw [if_pos static, if_neg kept, if_neg]
    · rfl
    · exact fun both => Bool.noConfusion both.2
  · rw [if_neg static, Patch.last_single]
    by_cases own : a = (st.session loss.link).ip
    · have covered : (addressPatch (st.session loss.link).ip
          (-((st.session loss.link).ipPoolIndex.toNat : Int))).covers a = true :=
        decide_eq_true own
      rw [if_pos covered, if_pos ⟨static, own⟩]
      rfl
    · have kept : ¬ ((st.session loss.link).ipPoolIndex ≠ -1 ∧ a = (st.session loss.link).ip) :=
        fun both => own both.2
      rw [if_neg kept, if_neg]
      exact fun covered => own (of_decide_eq_true covered)

/-- The addresses resolve after a link was shut down, if it has no entry of the pool, or if
it was the first one. -/
theorem Tenanted.resolves_loss (awake : st.Awake) (others : (st.bundle b).numOfLinks ≠ 1)
    (before : ∀ a, AddressOf st b a → st.roster.LinkOf b (sessionbyip st a)) :
    (∀ a, AddressOf st b a →
      (loss.perform st).roster.LinkOf b (sessionbyip (loss.perform st) a)) ↔
        (st.session loss.link).ipPoolIndex = -1 ∨ (st.bundle b).members 0 = loss.link := by
  have after : Tenanted (loss.perform st) := tenanted.sessionshutdown awake cause ..
  have cell := tenanted.lossCell real link cause
  have own := @Tenanted.lossOwn st b loss real link others
  have links := @Tenanted.lossLinks st b loss tenanted cause awake
  generalize loss.perform st = st' at after cell links ⊢
  cases tenanted.tenancy.roster.succeeds real link with
  | last single => exact absurd single others
  | moves x _ first other link' heir _ =>
      refine ⟨fun _ => .inr first, fun _ a address => ?_⟩
      have heirs : leavePatches st loss.link b = heirPatches st x := by
        rw [leavePatches, heir]
      have covered := heirPatches_covers (((tenanted.addressOf real link').mp address).symm)
      obtain ⟨v, found⟩ := Option.ne_none_iff_exists'.mp covered
      have value := (heirPatches_value (tenanted.strung.inUse x link'.1.1).2.1 found).1
      have member := (links x).mpr ⟨other, link'⟩
      have named : lookupIpmap st'.ipHash a = x := by
        rw [cell, heirs, found, value]
        rfl
      rw [(after.strung.resolves member.1.1).mpr named]
      exact member
  | stays _ first heir _ =>
      have heirless : leavePatches st loss.link b = [] := by
        rw [leavePatches, heir]
      have kept (a : InAddr) : lookupIpmap st'.ipHash a =
          (if (st.session loss.link).ipPoolIndex ≠ -1 ∧ a = (st.session loss.link).ip then
            some (pooled (st.session loss.link).ipPoolIndex) else none).getD
              (lookupIpmap st.ipHash a) := by
        rw [cell, heirless, own]
        rfl
      constructor
      · intro resolves
        refine .inl ?_
        by_contra pool
        have member := resolves (st.session loss.link).ip ⟨_, link, .inl rfl⟩
        have nobody : Nobody (lookupIpmap st'.ipHash (st.session loss.link).ip) := by
          rw [kept, if_pos ⟨pool, rfl⟩]
          exact tenanted.tenancy.indexes loss.link pool
        rw [Nobody.unresolved nobody] at member
        exact absurd after.strung.unopened member.1.1
      · rintro (static | same)
        · intro a address
          have link' := before a address
          have named := tenanted.first real link'
          have cell' : lookupIpmap st'.ipHash a = sessionbyip st a := by
            rw [kept, if_neg fun both => both.1 static, Option.getD_none, named.1, named.2]
          have other : sessionbyip st a ≠ loss.link := by
            rw [named.2]
            exact first
          have member := (links _).mpr ⟨other, link'⟩
          rw [(after.strung.resolves member.1.1).mpr cell']
          exact member
        · exact absurd same first

theorem Tenanted.assigned_loss
    (before : ∀ x, st.roster.LinkOf b x → OwnsEntry st x →
      EntryAssigned st (st.session x).ipPoolIndex) :
    (∀ x, st.roster.LinkOf b x → OwnsEntry st x →
      EntryAssigned (loss.perform st) (st.session x).ipPoolIndex) ↔ ¬ OwnsEntry st loss.link := by
  have pool := sessionshutdown_pool (tenanted.lossDrops real link cause) loss.reason
    loss.cdnResult loss.cdnError
  change (loss.perform st).ipAddressPool = poolWithout st loss.link at pool
  simp only [EntryAssigned, pool]
  rw [poolWithout]
  constructor
  · intro assigned owns
    have given := assigned loss.link link owns
    rw [if_neg owns.1, Function.update_self] at given
    exact nomatch given
  · intro unowned x link' owns
    split
    · exact before x link' owns
    · rename_i pool
      by_cases same : (st.session x).ipPoolIndex.toNat = (st.session loss.link).ipPoolIndex.toNat
      · have ip : (st.session x).ip = (st.session loss.link).ip :=
          (tenanted.tenancy.alike b x loss.link real link' link).1
        refine absurd ⟨pool, ?_⟩ unowned
        rw [← same, owns.2, ip]
      · rw [Function.update_of_ne same]
        exact before x link' owns

theorem Tenanted.serves_loss (awake : st.Awake) (others : (st.bundle b).numOfLinks ≠ 1)
    (serves : Serves st st b) : Serves st (loss.perform st) b ↔ Yields st b loss.link := by
  have resolves := tenanted.resolves_loss real link cause awake others serves.resolves
  have assigned := tenanted.assigned_loss real link cause serves.assigned
  have both : Serves st (loss.perform st) b ↔
      ((st.session loss.link).ipPoolIndex = -1 ∨ (st.bundle b).members 0 = loss.link) ∧
        ¬ OwnsEntry st loss.link := by
    rw [← resolves, ← assigned]
    exact ⟨fun serves => ⟨serves.resolves, serves.assigned⟩, fun both => ⟨both.1, both.2⟩⟩
  rw [both, Yields, or_and_right]
  refine or_congr_left (and_iff_left_of_imp fun static owns => ?_)
  exact owns.1 static

theorem Tenanted.unresolved_loss (single : (st.bundle b).numOfLinks = 1) {a : InAddr}
    (address : AddressOf st b a) : sessionbyip (loss.perform st) a = 0 := by
  apply Nobody.unresolved
  have bundle : (st.session loss.link).bundle = b := link.2
  have last : lastLink st loss.link = true := by
    rw [lastLink, bundle]
    exact decide_eq_true (.inr single)
  have maps : (st.session loss.link).deed.Maps (st.session loss.link).ip a := by
    rcases (tenanted.addressOf real link).mp address with same | routed
    · rw [same]
      exact tenanted.tenancy.own b loss.link real link
    · exact .inl routed
  obtain ⟨v, found⟩ := Option.ne_none_iff_exists'.mp (ownPatches_covers maps)
  have heirless : leavePatches st loss.link b = [] := by
    cases tenanted.tenancy.roster.succeeds real link with
    | last _ none => rw [leavePatches, none]
    | moves _ others | stays others => exact absurd single others
  rw [tenanted.lossCell real link cause, heirless, last, found]
  rcases ownPatches_value found with zero | ⟨pool, index⟩
  · exact .inl zero
  · have nobody := tenanted.tenancy.indexes loss.link pool
    rw [show v = pooled (st.tenancy.deed loss.link).index from index]
    exact nobody

end Loss

/-- The links in `left` are as they were in `st`, and the others of the bundle are gone. -/
structure Remaining (st st' : State) (b : Nat) (left : List Nat) : Prop where
  tenanted : Tenanted st'
  awake : st'.Awake
  links : ∀ x, st'.roster.LinkOf b x ↔ x ∈ left
  fewer : ∀ x ∈ left, st.roster.LinkOf b x
  same : ∀ x ∈ left, st'.session x = st.session x
  pool : ∀ i, (st'.ipAddressPool i).address = (st.ipAddressPool i).address
  free : ∀ x, st.roster.LinkOf b x → x ∉ left → OwnsEntry st x →
    ¬ EntryAssigned st' (st.session x).ipPoolIndex

namespace Remaining

variable {loss : Loss} {left : List Nat}

theorem owns {x : Nat} (remaining : Remaining st st' b left) (member : x ∈ left) :
    OwnsEntry st' x ↔ OwnsEntry st x := by
  rw [OwnsEntry, OwnsEntry, remaining.same x member, remaining.pool]

theorem addressOf (tenanted : Tenanted st) (real : b ≠ 0) (remaining : Remaining st st' b left)
    (member : s ∈ left) (a : InAddr) : AddressOf st' b a ↔ AddressOf st b a := by
  rw [remaining.tenanted.addressOf real ((remaining.links s).mpr member),
    tenanted.addressOf real (remaining.fewer s member), remaining.same s member]

variable (real : b ≠ 0) (cause : loss.termCause ≠ some .callback)
  (remaining : Remaining st st' b (loss.link :: left)) (unlisted : loss.link ∉ left)
include real cause remaining unlisted

/-- One link less remains. -/
theorem fewerLinks : Remaining st (loss.perform st') b left := by
  have link : st'.roster.LinkOf b loss.link := (remaining.links _).mpr List.mem_cons_self
  have links := @Tenanted.lossLinks st' b loss remaining.tenanted cause remaining.awake
  have after : Tenanted (loss.perform st') :=
    remaining.tenanted.sessionshutdown remaining.awake cause ..
  have pool := sessionshutdown_pool (remaining.tenanted.lossDrops real link cause) loss.reason
    loss.cdnResult loss.cdnError
  have only := @sessionshutdown_only st' loss.link loss.reason loss.cdnResult loss.cdnError
    loss.termCause
  have time := sessionshutdown_time st' loss.link loss.reason loss.cdnResult loss.cdnError
    loss.termCause
  change (loss.perform st').ipAddressPool = poolWithout st' loss.link at pool
  change OnlySession loss.link st' (loss.perform st') at only
  change (loss.perform st').time = st'.time at time
  generalize loss.perform st' = lost at links after pool only time ⊢
  refine ⟨after, ?_, fun x => ?_, fun x member => ?_, fun x member => ?_, fun i => ?_,
    fun x link' gone owns => ?_⟩
  · rw [State.Awake, time]
    exact remaining.awake
  · rw [links, remaining.links, List.mem_cons]
    constructor
    · exact fun both => both.2.resolve_left both.1
    · intro member
      refine ⟨?_, .inr member⟩
      rintro rfl
      exact unlisted member
  · exact remaining.fewer x (List.mem_cons_of_mem _ member)
  · have other : x ≠ loss.link := by
      rintro rfl
      exact unlisted member
    rw [only.others x other, remaining.same x (List.mem_cons_of_mem _ member)]
  · rw [pool, poolWithout, ← remaining.pool i]
    dsimp only
    split
    · rfl
    · rw [Function.update_apply]
      split
      · rename_i same
        rw [same]
      · rfl
  · rw [EntryAssigned, pool, poolWithout]
    dsimp only
    by_cases here : x = loss.link
    · have same : st'.session loss.link = st.session x := by
        rw [here]
        exact remaining.same _ List.mem_cons_self
      rw [same, if_neg owns.1, Function.update_self]
      simp
    · have unassigned : ¬ EntryAssigned st' (st.session x).ipPoolIndex := by
        refine remaining.free x link' (fun member => ?_) owns
        exact (List.mem_cons.mp member).elim here gone
      split
      · exact unassigned
      · rw [Function.update_apply]
        split
        · simp
        · exact unassigned

theorem serves_iff (tenanted : Tenanted st) (more : left ≠ []) (serves : Serves st st' b) :
    Serves st (loss.perform st') b ↔ Yields st' b loss.link := by
  have here : loss.link ∈ loss.link :: left := List.mem_cons_self
  have link : st'.roster.LinkOf b loss.link := (remaining.links _).mpr here
  have others : (st'.bundle b).numOfLinks ≠ 1 := by
    intro single
    obtain ⟨y, member⟩ := List.exists_mem_of_ne_nil left more
    have link' := (remaining.links y).mpr (List.mem_cons_of_mem _ member)
    rw [remaining.tenanted.tenancy.roster.alone real link single link'] at member
    exact unlisted member
  have address := remaining.addressOf tenanted real here
  -- what was lost before had no entry that is still assigned
  have stays (next : State) : Serves st next b ↔ Serves st' next b := by
    refine ⟨fun served => ⟨fun a => ?_, fun x member owns => ?_⟩,
      fun served => ⟨fun a => ?_, fun x member owns => ?_⟩⟩
    · rw [address]
      exact served.resolves a
    · have member := (remaining.links x).mp member
      rw [remaining.same x member]
      exact served.assigned x (remaining.fewer x member) ((remaining.owns member).mp owns)
    · rw [← address]
      exact served.resolves a
    · have listed : x ∈ loss.link :: left := by
        by_contra gone
        exact remaining.free x member gone owns (serves.assigned x member owns)
      rw [← remaining.same x listed]
      exact served.assigned x ((remaining.links x).mpr listed) ((remaining.owns listed).mpr owns)
  rw [stays]
  exact remaining.tenanted.serves_loss real link cause remaining.awake others
    ((stays st').mp serves)

end Remaining

/-- The links of a bundle are shut down one after another, not because they called back. -/
structure LosesAll (st : State) (b : Nat) (losses : List Loss) : Prop where
  distinct : (losses.map Loss.link).Nodup
  links : ∀ x, x ∈ losses.map Loss.link ↔ st.roster.LinkOf b x
  causes : ∀ loss ∈ losses, loss.termCause ≠ some .callback

/-- The state after the first `k` links were shut down. -/
def loseLinks (st : State) (losses : List Loss) (k : Nat) : State :=
  (losses.take k).foldl Loss.perform st

theorem loseLinks_succ {losses : List Loss} {k : Nat} (below : k < losses.length) :
    loseLinks st losses (k + 1) = (losses.get ⟨k, below⟩).perform (loseLinks st losses k) := by
  rw [loseLinks, List.take_succ_eq_append_getElem below, List.foldl_append]
  rfl

/-- While links are left, the addresses of the bundle resolve to them and its entry of the
pool is assigned; then the addresses resolve no more and the entry is free. -/
structure AddressSurvives (st : State) (b : Nat) (losses : List Loss) : Prop where
  serves : ∀ k, 0 < k → k < losses.length → Serves st (loseLinks st losses k) b
  givenBack : GivenBack st (loseLinks st losses losses.length) b

def LinksYield (st : State) (b : Nat) (losses : List Loss) : Prop :=
  ∀ k, (below : k + 1 < losses.length) →
    Yields (loseLinks st losses k) b (losses.get ⟨k, Nat.lt_of_succ_lt below⟩).link

section Losses

variable {losses : List Loss} (tenanted : Tenanted st) (real : b ≠ 0) (awake : st.Awake)
  (loses : LosesAll st b losses)
include tenanted real awake loses

theorem remaining_drop {k : Nat} (within : k ≤ losses.length) :
    Remaining st (loseLinks st losses k) b ((losses.drop k).map Loss.link) := by
  induction k with
  | zero =>
      refine ⟨tenanted, awake, fun x => (loses.links x).symm, fun x => (loses.links x).mp,
        fun _ _ => rfl, fun _ => rfl, fun x link gone => ?_⟩
      exact absurd ((loses.links x).mpr link) gone
  | succ k ih =>
      have below : k < losses.length := within
      have before := ih (Nat.le_of_lt below)
      have listed : (losses.drop k).map Loss.link =
          (losses.get ⟨k, below⟩).link :: (losses.drop (k + 1)).map Loss.link := by
        rw [List.drop_eq_getElem_cons below, List.map_cons]
        rfl
      have distinct : ((losses.drop k).map Loss.link).Nodup :=
        loses.distinct.sublist ((List.drop_sublist k losses).map Loss.link)
      rw [listed] at before distinct
      rw [loseLinks_succ below]
      exact before.fewerLinks real (loses.causes _ (List.get_mem ..))
        (List.nodup_cons.mp distinct).1

theorem remaining_next {k : Nat} (below : k < losses.length) :
    Remaining st (loseLinks st losses k) b
        ((losses.get ⟨k, below⟩).link :: (losses.drop (k + 1)).map Loss.link) ∧
      (losses.get ⟨k, below⟩).link ∉ (losses.drop (k + 1)).map Loss.link := by
  have listed : (losses.drop k).map Loss.link =
      (losses.get ⟨k, below⟩).link :: (losses.drop (k + 1)).map Loss.link := by
    rw [List.drop_eq_getElem_cons below, List.map_cons]
    rfl
  have remaining := remaining_drop tenanted real awake loses (Nat.le_of_lt below)
  have distinct : ((losses.drop k).map Loss.link).Nodup :=
    loses.distinct.sublist ((List.drop_sublist k losses).map Loss.link)
  rw [listed] at remaining distinct
  exact ⟨remaining, (List.nodup_cons.mp distinct).1⟩

theorem serves_succ {k : Nat} (below : k + 1 < losses.length)
    (serves : Serves st (loseLinks st losses k) b) :
    Serves st (loseLinks st losses (k + 1)) b ↔
      Yields (loseLinks st losses k) b (losses.get ⟨k, Nat.lt_of_succ_lt below⟩).link := by
  obtain ⟨remaining, unlisted⟩ :=
    remaining_next tenanted real awake loses (Nat.lt_of_succ_lt below)
  rw [loseLinks_succ (Nat.lt_of_succ_lt below)]
  refine remaining.serves_iff real (loses.causes _ (List.get_mem ..)) unlisted tenanted ?_ serves
  intro none
  have length := congrArg List.length none
  rw [List.length_map, List.length_drop, List.length_nil] at length
  omega

theorem givenBack_all : GivenBack st (loseLinks st losses losses.length) b := by
  have gone := remaining_drop tenanted real awake loses (Nat.le_refl losses.length)
  rw [List.drop_length] at gone
  refine ⟨fun a address => ?_, fun x link => gone.free x link List.not_mem_nil⟩
  obtain ⟨x, link, _⟩ := id address
  have some : losses.length ≠ 0 := by
    intro none
    have member := (loses.links x).mpr link
    rw [List.length_eq_zero_iff.mp none] at member
    exact absurd member List.not_mem_nil
  obtain ⟨k, last⟩ := Nat.exists_eq_succ_of_ne_zero some
  have below : k < losses.length := by omega
  obtain ⟨remaining, _⟩ := remaining_next tenanted real awake loses below
  have none : losses.drop (k + 1) = [] := List.drop_eq_nil_of_le (by omega)
  rw [none, List.map_nil] at remaining
  have here := List.mem_singleton_self (losses.get ⟨k, below⟩).link
  have link' := (remaining.links _).mpr here
  rw [last, Nat.succ_eq_add_one, loseLinks_succ below]
  apply remaining.tenanted.unresolved_loss real link' (loses.causes _ (List.get_mem ..))
  · apply remaining.tenanted.tenancy.roster.single real link'
    exact fun y other => List.mem_singleton.mp ((remaining.links y).mp other)
  · exact (remaining.addressOf tenanted real here a).mpr address

theorem Tenanted.survives_iff (serves : Serves st st b) :
    AddressSurvives st b losses ↔ LinksYield st b losses := by
  constructor
  · intro survives k below
    have before : Serves st (loseLinks st losses k) b := by
      cases k with
      | zero => exact serves
      | succ k => exact survives.serves (k + 1) (Nat.succ_pos k) (Nat.lt_of_succ_lt below)
    exact (serves_succ tenanted real awake loses below before).mp
      (survives.serves (k + 1) (Nat.succ_pos k) below)
  · intro yields
    refine ⟨fun k _ within => ?_, givenBack_all tenanted real awake loses⟩
    induction k with
    | zero => exact serves
    | succ k ih =>
        cases k with
        | zero => exact (serves_succ tenanted real awake loses within serves).mpr (yields 0 within)
        | succ k =>
            have before := ih (Nat.succ_pos k) (Nat.lt_of_succ_lt within)
            exact (serves_succ tenanted real awake loses within before).mpr (yields _ within)

end Losses

/-- **A bundle's address survives its links.** In every state that is reached with the map in
order, and for every order in which the links of a bundle are shut down, the addresses resolve
to a live link and the entry of the pool stays assigned as long as links are left, if and only
if each link that leaves others behind yields. -/
theorem address_survives_iff (reached : tenantSystem.ReachableUnder KeepsTenants st)
    (real : b ≠ 0) (awake : st.Awake) (serves : Serves st st b) {losses : List Loss}
    (loses : LosesAll st b losses) : AddressSurvives st b losses ↔ LinksYield st b losses :=
  (tenanted_of_reachable reached).survives_iff real awake loses serves

/-- The first link of bundle `b`. -/
def firstJoin (st : State) (s b : Nat) : State :=
  let first := st.session s
  let joined := (newBundle st).1.setSession s fun session => { session with bundle := b }
  joined.setBundle b fun bundle =>
    { bundle with
      mrru := first.mrru
      mssf := first.mssf
      maxSeq := 2 ^ 24
      epdis := if first.epdis.address = [] then bundle.epdis else first.epdis
      user := first.user
      members := Function.update bundle.members 0 s
      timeout := first.timeout }

theorem firstJoin_bundle : ((firstJoin st s b).session s).bundle = b := by
  simp only [firstJoin]
  rw [State.setBundle_session, State.setSession_same]

theorem joinBundle_first (none : findBundle st s = none) (free : freeBundle st = some b) :
    joinBundle st s = (firstJoin st s b, (b : Int)) := by
  have entry := (newBundle_opens (s := s) free).1
  simp only [joinBundle, none, entry]
  rw [if_neg (freeBundle_spec free).1]
  rfl

theorem sessionsetup_first (wants : WantsBundle st s) (none : findBundle st s = none)
    (free : freeBundle st = some b) (t : Nat) :
    sessionsetup st s t = sessionsetup ((firstJoin st s b).emit (.clusterBundle b)) s t := by
  have real := (freeBundle_spec free).1
  have join := joinBundle_first none free
  have setup : setupBundle st s = ((firstJoin st s b).emit (.clusterBundle b), true) := by
    rw [setupBundle_granted wants real (by rw [join]), join, firstJoin_bundle]
  have again : setupBundle ((firstJoin st s b).emit (.clusterBundle b)) s =
      ((firstJoin st s b).emit (.clusterBundle b), true) := by
    rw [setupBundle, State.emit_session, firstJoin_bundle]
    exact if_neg fun both => real both.2
  rw [sessionsetup, sessionsetup, setup, again]

/-- A session accepts multilink, and RADIUS gives it an address, or none. -/
def acceptLink (st : State) (s : Nat) (ip : InAddr) : State :=
  st.setSession s fun session =>
    { session with
      mrru := 1
      user := [97]
      ip := ip
      ipPoolIndex := if ip = 0 then session.ipPoolIndex else -1 }

theorem acceptLink_beside (unlinked : (st.session s).bundle = 0) (clock : st.timeNow ≠ 0)
    (ip : InAddr) : Beside st (acceptLink st s ip) := by
  apply setSession_beside unlinked clock rfl rfl rfl rfl
  dsimp only
  split
  · exact .inl rfl
  · exact .inr rfl

theorem Tenanted.acceptLink (tenanted : Tenanted st) (used : (st.session s).opened ≠ 0)
    (unaddressed : (st.session s).ip = 0) (unlinked : (st.session s).bundle = 0) (ip : InAddr) :
    KeepsAddresses st (acceptLink st s ip) :=
  tenanted.keepsAddresses used unaddressed unlinked _

/-- A server with a pool of one address, on which a session has accepted multilink. -/
def firstLink (ip : InAddr) : State :=
  acceptLink (openSession (State.start .zero
    (fun i => if i = 1 then { IpPool.zero with address := 10 } else .zero) 2 0 1) 1 1) 1 ip

/-- It has opened a bundle. -/
def firstUp (ip : InAddr) : State :=
  sessionsetup ((firstJoin (firstLink ip) 1 1).emit (.clusterBundle 1)) 1 1

/-- A second session has accepted multilink. -/
def secondLink (ip : InAddr) : State := acceptLink (openSession (firstUp ip) 2 1) 2 ip

/-- It has joined the bundle. -/
def bothUp (ip : InAddr) : State := sessionsetup (secondLink ip) 2 1

theorem firstLink_bundles (ip : InAddr) :
    WantsBundle (firstLink ip) 1 ∧ findBundle (firstLink ip) 1 = none ∧
      freeBundle (firstLink ip) = some 1 := by
  refine ⟨?_, ?_, ?_⟩
  · rw [WantsBundle, firstLink, acceptLink, State.setSession_same, openSession_session,
      Function.update_self]
    exact ⟨Nat.one_pos, rfl⟩
  · rw [findBundle, List.find?_eq_none]
    exact fun _ _ matched => Bool.noConfusion matched
  · rw [freeBundle, show maxBundle - 1 = 59998 + 1 from rfl, List.range'_succ]
    rfl

/-- The address of the bundle. -/
def pairIp (ip : InAddr) : InAddr := if ip = 0 then 10 else ip

variable {ip : InAddr}

theorem firstLink_facts (known : ip = 0 ∨ ip = 20) :
    (((firstLink ip).session 1).opened ≠ 0 ∧ ((firstLink ip).session 1).die = 0) ∧
      ((firstLink ip).session 1).ip = ip ∧ ownAddress (firstLink ip) 1 = pairIp ip ∧
        poolEntry (firstLink ip) 1 = some 1 ∧
          (ip ≠ 0 → ((firstLink ip).session 1).ipPoolIndex = -1 ∧
            ((firstLink ip).session 1).route.length = 0) ∧
          (firstLink ip).time = 0 ∧ ((firstLink ip).bundle 1).isOpen = false := by
  rcases known with rfl | rfl <;> decide

theorem firstLink_may (known : ip = 0 ∨ ip = 20) : MayInstall (firstLink ip) 1 := by
  obtain ⟨live, own, address, entry, framed, _, closed⟩ := firstLink_facts known
  obtain ⟨wants, none, free⟩ := firstLink_bundles ip
  have alone : joinsBundle (firstLink ip) 1 = Option.none := by
    rw [joinsBundle, if_pos wants, none, Option.filter_none]
  have bundle : bundleFor (firstLink ip) 1 = some 1 := by
    rw [bundleFor, if_pos wants, none, Option.isSome_none, if_neg (by simp), free]
  have given : addressFor (firstLink ip) 1 = pairIp ip := by
    rw [addressFor, alone]
    exact address
  have addressed : pairIp ip ≠ 0 := by
    rcases known with rfl | rfl <;> decide
  refine ⟨⟨live, fun b joins => ?_, fun b _ _ => ?_, fun b _ _ suicide => Bool.noConfusion suicide⟩,
    fun b _ => ⟨live, fun _ _ best found => ?_, fun either => ?_, fun joins => ?_,
      fun b joins => ?_⟩, fun suicides => Bool.noConfusion suicides, fun b _ found shared => ?_⟩
  · rw [alone] at joins
    cases joins
  · rw [given]
    exact addressed
  · rw [entry] at found
    rw [← Option.some.inj found]
    exact .inr (by decide)
  · have framedIp : ip ≠ 0 := by
      rw [own] at either
      exact either.resolve_right fun joins => joins alone
    rw [given, pairIp, if_neg framedIp]
    obtain ⟨static, routes⟩ := framed framedIp
    refine .inr ?_
    rw [if_pos (show ((firstLink ip).session 1).deed.index = -1 from static)]
    refine ⟨?_, ?_⟩
    · rw [show ((firstLink ip).session 1).deed.route = [] from List.length_eq_zero_iff.mp routes]
      rfl
    · rcases known with rfl | rfl <;> decide
  · exact absurd alone joins
  · rw [alone] at joins
    cases joins
  · rw [bundle] at found
    rw [← Option.some.inj found, closed] at shared
    cases (shared alone).1

theorem secondLink_facts (known : ip = 0 ∨ ip = 20) :
    (((secondLink ip).session 2).opened ≠ 0 ∧ ((secondLink ip).session 2).die = 0) ∧
      (((secondLink ip).session 1).opened ≠ 0 ∧ ((secondLink ip).session 1).die = 0) ∧
        ((secondLink ip).session 1).bundle = 1 ∧ joinsBundle (secondLink ip) 2 = some 1 ∧
          bundleFor (secondLink ip) 2 = some 1 ∧ addressFor (secondLink ip) 2 = pairIp ip ∧
            ((secondLink ip).bundle 1).numOfLinks = 1 ∧ ((secondLink ip).bundle 1).members 0 = 1 ∧
              sessionbyip (secondLink ip) (pairIp ip) = 1 ∧
                (secondLink ip).config.suicideDuplicateIp = false ∧
                  (secondLink ip).highestSessionid = 2 := by
  rcases known with rfl | rfl <;> decide

theorem secondLink_deeds (known : ip = 0 ∨ ip = 20) :
    ((secondLink ip).session 2).deed = ⟨if ip = 0 then 0 else -1, []⟩ ∧
      ((secondLink ip).session 1).deed.route = [] := by
  have routes : ((secondLink ip).session 2).route.length = 0 ∧
      ((secondLink ip).session 1).route.length = 0 ∧
        ((secondLink ip).session 2).ipPoolIndex = if ip = 0 then 0 else -1 := by
    rcases known with rfl | rfl <;> decide
  obtain ⟨second, first, index⟩ := routes
  refine ⟨?_, List.length_eq_zero_iff.mp first⟩
  rw [Session.deed, index, List.length_eq_zero_iff.mp second]

theorem secondLink_may (known : ip = 0 ∨ ip = 20) (tenanted : Tenanted (secondLink ip))
    (unnamed : ∀ a, lookupIpmap (secondLink ip).ipHash a ≠ 2) :
    MayInstall (secondLink ip) 2 := by
  obtain ⟨live, firstLive, member, joins, bundle, given, count, first, resolves, suicide,
    highest⟩ := secondLink_facts known
  obtain ⟨deed, routes⟩ := secondLink_deeds known
  have addressed : pairIp ip ≠ 0 := by
    rcases known with rfl | rfl <;> decide
  refine ⟨⟨live, fun b found => ?_, fun b _ _ => ?_, fun b _ _ suicides => ?_⟩,
    fun b _ => ⟨live, fun _ none => ?_, fun _ => ?_, fun _ => unnamed, fun b found a => ?_⟩,
      fun suicides => ?_, fun b _ found _ => ⟨?_, fun i other used outside => ?_⟩⟩
  · rw [joins] at found
    rw [← Option.some.inj found, count]
    decide
  · rw [given]
    exact addressed
  · rw [suicide] at suicides
    exact nomatch suicides
  · rw [joins] at none
    exact nomatch none
  · rw [given, deed]
    refine .inr ?_
    rcases known with rfl | rfl
    · rfl
    · exact ⟨rfl, by decide⟩
  · rw [joins] at found
    rw [← Option.some.inj found, first, show ((secondLink ip).session 1).route = [] from routes,
      show ((secondLink ip).session 2).route = [] from congrArg Deed.route deed]
  · rw [suicide] at suicides
    exact nomatch suicides
  · rw [bundle] at found
    rw [given, resolves, ← Option.some.inj found]
    exact ⟨firstLive, member⟩
  · rw [bundle] at found
    rw [← Option.some.inj found] at outside
    have within := tenanted.numbered i used
    have some := (tenanted.strung.inUse i used).1
    rw [highest] at within
    have same : i = 1 := by omega
    rw [same] at outside
    exact absurd member outside

theorem firstLink_reachable (ip : InAddr) :
    tenantSystem.ReachableUnder KeepsTenants (firstLink ip) := by
  have start : tenantSystem.ReachableUnder KeepsTenants (State.start .zero
      (fun i => if i = 1 then { IpPool.zero with address := 10 } else .zero) 2 0 1) :=
    .initial ⟨_, _, _, _, _, Nat.one_ne_zero, rfl⟩
  have opened : tenantSystem.ReachableUnder KeepsTenants (openSession (State.start .zero
      (fun i => if i = 1 then { IpPool.zero with address := 10 } else .zero) 2 0 1) 1 1) :=
    .step (.openSession 1 1) start Nat.one_ne_zero ⟨rfl, rfl⟩
  have own : (openSession (State.start .zero (fun i => if i = 1 then { IpPool.zero with
      address := 10 } else .zero) 2 0 1) 1 1).session 1 = { Session.zero with
        opened := 1, tunnel := 1, lastPacket := 1,
        ppp := { Session.zero.ppp with phase := .establish, lcp := .starting } } := by
    rw [openSession_session, Function.update_self]
    rfl
  have tenanted := tenanted_of_reachable opened
  rw [firstLink]
  generalize openSession (State.start .zero _ 2 0 1) 1 1 = st at opened own tenanted ⊢
  have clock := tenanted.strung.clock
  refine .step (.aside _) opened (tenanted.acceptLink ?_ ?_ ?_ ip)
    ⟨rfl, acceptLink_beside ?_ clock ip⟩
  all_goals rw [own]
  · exact Nat.one_ne_zero
  · rfl
  · rfl
  · rfl

theorem firstUp_reachable (known : ip = 0 ∨ ip = 20) :
    tenantSystem.ReachableUnder KeepsTenants (firstUp ip) := by
  obtain ⟨wants, none, free⟩ := firstLink_bundles ip
  have unforwarded : ((firstLink ip).session 1).forwardtosession = 0 := by
    rcases known with rfl | rfl <;> decide
  have awake : (firstLink ip).Awake := by
    rw [State.Awake, (firstLink_facts known).2.2.2.2.2.1]
    decide
  refine .step (.setup 1 1) (firstLink_reachable ip) ⟨awake, firstLink_may known⟩ ⟨?_, unforwarded⟩
  exact (sessionsetup_first wants none free 1).symm

theorem secondLink_reachable (known : ip = 0 ∨ ip = 20) :
    tenantSystem.ReachableUnder KeepsTenants (secondLink ip) ∧
      ∀ a, lookupIpmap (secondLink ip).ipHash a ≠ 2 := by
  have free : 2 = (firstUp ip).sessionfree := by
    rcases known with rfl | rfl <;> decide
  have own : ((openSession (firstUp ip) 2 1).session 2).opened ≠ 0 ∧
      ((openSession (firstUp ip) 2 1).session 2).ip = 0 ∧
        ((openSession (firstUp ip) 2 1).session 2).bundle = 0 := by
    rcases known with rfl | rfl <;> decide
  have opened : tenantSystem.ReachableUnder KeepsTenants (openSession (firstUp ip) 2 1) :=
    .step (.openSession 2 1) (firstUp_reachable known) (Nat.succ_ne_zero 1) ⟨rfl, free⟩
  have tenanted := tenanted_of_reachable opened
  rw [secondLink]
  generalize openSession (firstUp ip) 2 1 = st at own opened tenanted ⊢
  refine ⟨.step (.aside _) opened (tenanted.acceptLink own.1 own.2.1 own.2.2 ip)
    ⟨rfl, acceptLink_beside own.2.2 tenanted.strung.clock ip⟩, ?_⟩
  exact tenanted.unnamed own.1 own.2.1

theorem bothUp_reachable (known : ip = 0 ∨ ip = 20) :
    tenantSystem.ReachableUnder KeepsTenants (bothUp ip) := by
  obtain ⟨reached, unnamed⟩ := secondLink_reachable known
  have plain : (secondLink ip).time = 0 ∧ ((secondLink ip).session 2).forwardtosession = 0 := by
    rcases known with rfl | rfl <;> decide
  have awake : (secondLink ip).Awake := by
    rw [State.Awake, plain.1]
    decide
  exact .step (.setup 2 1) reached
    ⟨awake, secondLink_may known (tenanted_of_reachable reached) unnamed⟩ ⟨rfl, plain.2⟩

theorem bothUp_facts (known : ip = 0 ∨ ip = 20) :
    (∀ x ∈ [1, 2], (((bothUp ip).session x).opened ≠ 0 ∧ ((bothUp ip).session x).die = 0) ∧
        ((bothUp ip).session x).bundle = 1) ∧
      ((bothUp ip).session 1).ip = pairIp ip ∧ ((bothUp ip).session 1).route.length = 0 ∧
        sessionbyip (bothUp ip) (pairIp ip) = 1 ∧ (bothUp ip).highestSessionid = 2 ∧
          (bothUp ip).time = 0 ∧ (∀ x ∈ [1, 2], ((bothUp ip).session x).ipPoolIndex = -1 ∨
            ((bothUp ip).ipAddressPool
              ((bothUp ip).session x).ipPoolIndex.toNat).address = 0 ∨
              ((bothUp ip).ipAddressPool
                ((bothUp ip).session x).ipPoolIndex.toNat).assigned = true) := by
  rcases known with rfl | rfl <;> decide

theorem bothUp_links (known : ip = 0 ∨ ip = 20) (x : Nat) :
    x ∈ [1, 2] ↔ (bothUp ip).roster.LinkOf 1 x := by
  obtain ⟨links, _, _, _, highest, _⟩ := bothUp_facts known
  have tenanted := tenanted_of_reachable (bothUp_reachable known)
  refine ⟨fun member => links x member, fun link => ?_⟩
  have within := tenanted.numbered x link.1.1
  have some := (tenanted.strung.inUse x link.1.1).1
  rw [highest] at within
  rw [List.mem_cons, List.mem_singleton]
  omega

theorem bothUp_serves (known : ip = 0 ∨ ip = 20) : Serves (bothUp ip) (bothUp ip) 1 := by
  obtain ⟨links, address, routes, resolves, _, _, entries⟩ := bothUp_facts known
  have tenanted := tenanted_of_reachable (bothUp_reachable known)
  have addressed : pairIp ip ≠ 0 := by
    rcases known with rfl | rfl <;> decide
  have first : (bothUp ip).roster.LinkOf 1 1 := links 1 List.mem_cons_self
  refine ⟨fun a named => ?_, fun x link owns => ?_⟩
  · rcases (tenanted.addressOf Nat.one_ne_zero first).mp named with same | ⟨route, member, _⟩
    · rw [same, address, resolves]
      exact first
    · rw [List.length_eq_zero_iff.mp routes] at member
      exact absurd member List.not_mem_nil
  · have ip : ((bothUp ip).session x).ip ≠ 0 := by
      have alike := (tenanted.tenancy.alike 1 x 1 Nat.one_ne_zero link first).1
      rw [show ((bothUp ip).session x).ip = ((bothUp ip).session 1).ip from alike, address]
      exact addressed
    rcases entries x ((bothUp_links known x).mpr link) with static | unaddressed | assigned
    · exact absurd static owns.1
    · exact absurd (owns.2.symm.trans unaddressed) ip
    · exact assigned

/-- The second link is shut down, then the first. -/
def pairLosses : List Loss := [⟨2, "", 0, 0, none⟩, ⟨1, "", 0, 0, none⟩]

theorem pairLosses_all (known : ip = 0 ∨ ip = 20) : LosesAll (bothUp ip) 1 pairLosses := by
  refine ⟨by decide, fun x => ?_, fun loss member => ?_⟩
  · rw [← bothUp_links known]
    simp only [pairLosses, List.map_cons, List.map_nil, List.mem_cons, List.not_mem_nil, or_false]
    exact or_comm
  · rcases List.mem_pair.mp member with rfl | rfl <;> exact nofun

/-- RADIUS gave both links the address of the bundle. -/
theorem address_survives_iff_framed :
    AddressSurvives (bothUp 20) 1 pairLosses ↔ LinksYield (bothUp 20) 1 pairLosses := by
  have awake : (bothUp 20).Awake := by
    rw [State.Awake, (bothUp_facts (.inr rfl)).2.2.2.2.2.1]
    decide
  exact address_survives_iff (bothUp_reachable (.inr rfl)) Nat.one_ne_zero awake
    (bothUp_serves (.inr rfl)) (pairLosses_all (.inr rfl))

/-- The second link of a bundle with an address of the pool unmaps it. -/
theorem address_unmapped :
    ¬ ∀ st, tenantSystem.Reachable st → ∀ b losses, b ≠ 0 → Serves st st b →
      LosesAll st b losses → AddressSurvives st b losses := by
  intro survives
  have known : (0 : InAddr) = 0 ∨ (0 : InAddr) = 20 := .inl rfl
  have reached : tenantSystem.Reachable (bothUp 0) :=
    (bothUp_reachable known).weaken fun _ _ _ => trivial
  have lost : sessionbyip (loseLinks (bothUp 0) pairLosses 1) 10 = 0 ∧
      ((loseLinks (bothUp 0) pairLosses 1).session 0).opened = 0 := by decide
  have address : AddressOf (bothUp 0) 1 10 := by
    refine ⟨1, (bothUp_links known 1).mp List.mem_cons_self, .inl ?_⟩
    rw [(bothUp_facts known).2.1]
    rfl
  have serves := (survives _ reached 1 pairLosses Nat.one_ne_zero (bothUp_serves known)
    (pairLosses_all known)).serves 1 Nat.one_pos (by decide)
  have link := serves.resolves 10 address
  rw [lost.1] at link
  exact link.1.1 lost.2

end L2tpns.Server
