import L2tpns.Foundation.Listing
import L2tpns.Server.SlotOwnership

/-! # Links of a bundle

A bundle lists its links in the first slots of an array, and a link knows its
bundle. The roster is what this depends on. A link that joins is appended, one that
is shut down gives its slot to the last one (`L2tpns.Server.Roster.Sound.sessionshutdown`).
-/

namespace L2tpns.Server

open Foundation Function State

/-- The array of links of a bundle. -/
structure Links where
  isOpen : Bool
  count : Nat
  members : Nat → Nat

def Bundle.links (bundle : Bundle) : Links := ⟨bundle.isOpen, bundle.numOfLinks, bundle.members⟩

/-- Which session is in which bundle. -/
structure Roster where
  opened : Nat → Nat
  die : Nat → Nat
  bundle : Nat → Nat
  ip : Nat → InAddr
  links : Nat → Links

def State.roster (st : State) : Roster where
  opened := fun s => (st.session s).opened
  die := fun s => (st.session s).die
  bundle := fun s => (st.session s).bundle
  ip := fun s => (st.session s).ip
  links := fun b => (st.bundle b).links

namespace Roster

variable (roster : Roster)

/-- A session that is open and not yet shut down. -/
def Live (s : Nat) : Prop := roster.opened s ≠ 0 ∧ roster.die s = 0

/-- The live links of a bundle. -/
def LinkOf (b s : Nat) : Prop := roster.Live s ∧ roster.bundle s = b

/-- The links of an open bundle, of which there is at least one and at most as many
as its array has slots. -/
structure Listed (b : Nat) : Prop where
  some : 1 ≤ (roster.links b).count
  room : (roster.links b).count ≤ maxBundleSes
  lists : Lists (roster.links b).members (roster.links b).count (roster.LinkOf b)

/-- Open bundles list their live links, and free bundles have none. A live link
has an address, one that was shut down has none. -/
structure Sound : Prop where
  root : (roster.links 0).isOpen = false
  listed : ∀ b, (roster.links b).isOpen = true → roster.Listed b
  free : ∀ b, b ≠ 0 → (roster.links b).isOpen = false → ∀ s, ¬ roster.LinkOf b s
  addressed : ∀ s, roster.Live s → roster.bundle s ≠ 0 → roster.ip s ≠ 0
  gone : ∀ s, roster.opened s ≠ 0 → roster.die s ≠ 0 → roster.bundle s ≠ 0 → roster.ip s = 0

end Roster

namespace Roster

variable {roster roster' : Roster}

theorem Sound.open_nonzero (sound : roster.Sound) {b : Nat}
    (isOpen : (roster.links b).isOpen = true) : b ≠ 0 := by
  rintro rfl
  rw [sound.root] at isOpen
  exact nomatch isOpen

theorem Sound.isOpen (sound : roster.Sound) {b s : Nat} (real : b ≠ 0) (link : roster.LinkOf b s) :
    (roster.links b).isOpen = true := by
  by_contra closed
  exact sound.free b real (Bool.eq_false_of_not_eq_true closed) s link

/-- Two rosters that differ in one session at most. -/
structure Elsewhere (roster roster' : Roster) (s : Nat) : Prop where
  opened : ∀ x, x ≠ s → roster'.opened x = roster.opened x
  die : ∀ x, x ≠ s → roster'.die x = roster.die x
  bundle : ∀ x, x ≠ s → roster'.bundle x = roster.bundle x
  ip : ∀ x, x ≠ s → roster'.ip x = roster.ip x

namespace Elsewhere

variable {s : Nat} (elsewhere : Elsewhere roster roster' s)
include elsewhere

theorem live {x : Nat} (other : x ≠ s) : roster'.Live x ↔ roster.Live x := by
  unfold Live
  rw [elsewhere.opened x other, elsewhere.die x other]

theorem linkOf {b x : Nat} (other : x ≠ s) : roster'.LinkOf b x ↔ roster.LinkOf b x := by
  unfold LinkOf
  rw [elsewhere.live other, elsewhere.bundle x other]

theorem addresses (sound : roster.Sound)
    (addressed : roster'.Live s → roster'.bundle s ≠ 0 → roster'.ip s ≠ 0)
    (gone : roster'.opened s ≠ 0 → roster'.die s ≠ 0 → roster'.bundle s ≠ 0 → roster'.ip s = 0) :
    (∀ x, roster'.Live x → roster'.bundle x ≠ 0 → roster'.ip x ≠ 0) ∧
      ∀ x, roster'.opened x ≠ 0 → roster'.die x ≠ 0 → roster'.bundle x ≠ 0 → roster'.ip x = 0 := by
  refine ⟨fun x live member => ?_, fun x opened dying member => ?_⟩
  · by_cases same : x = s
    · subst same
      exact addressed live member
    · rw [elsewhere.bundle x same] at member
      rw [elsewhere.ip x same]
      exact sound.addressed x ((elsewhere.live same).mp live) member
  · by_cases same : x = s
    · subst same
      exact gone opened dying member
    · rw [elsewhere.opened x same] at opened
      rw [elsewhere.die x same] at dying
      rw [elsewhere.bundle x same] at member
      rw [elsewhere.ip x same]
      exact sound.gone x opened dying member

end Elsewhere

theorem Sound.elsewhere {s : Nat} (sound : roster.Sound) (elsewhere : Elsewhere roster roster' s)
    (links : ∀ b, roster'.links b = roster.links b)
    (before : ∀ b, b ≠ 0 → ¬ roster.LinkOf b s) (after : ∀ b, b ≠ 0 → ¬ roster'.LinkOf b s)
    (gone : roster'.opened s ≠ 0 → roster'.die s ≠ 0 → roster'.bundle s ≠ 0 → roster'.ip s = 0) :
    roster'.Sound := by
  have same : ∀ b x, b ≠ 0 → (roster'.LinkOf b x ↔ roster.LinkOf b x) := by
    intro b x real
    by_cases here : x = s
    · rw [here]
      exact iff_of_false (after b real) (before b real)
    · exact elsewhere.linkOf here
  obtain ⟨addressed, gone⟩ := elsewhere.addresses sound
    (fun live member => absurd ⟨live, rfl⟩ (after _ member)) gone
  refine ⟨?_, fun b isOpen => ?_, fun b real closed x => ?_, addressed, gone⟩
  · rw [links]
    exact sound.root
  · rw [links] at isOpen
    have listed := sound.listed b isOpen
    refine ⟨?_, ?_, ?_⟩
    · rw [links]
      exact listed.some
    · rw [links]
      exact listed.room
    · rw [links]
      exact listed.lists.congr fun x => same b x (sound.open_nonzero isOpen)
  · rw [links] at closed
    rw [same b x real]
    exact sound.free b real closed x

end Roster

/-- The table of bundles after a link has left. -/
def dropLink (bundle : Nat → Bundle) (s b : Nat) : Nat → Bundle :=
  let links := ((bundle b).numOfLinks + 255) % 2 ^ 8
  let members := (bundle b).members
  if b = 0 then bundle
  else if links = 0 then Function.update bundle b .zero
  else if members links = s then
    Function.update bundle b { bundle b with numOfLinks := links }
  else
    Function.update bundle b { bundle b with
      numOfLinks := links
      members := Function.update members (memberPosition members s links) (members links) }

variable {st st' : State} {s : Nat}

theorem takeOver_bundle (s : Nat) : (takeOver st s).bundle = st.bundle := by
  have cached (routes : List Route6) (st : State) :
      (routes.foldl (fun st route =>
        st.cacheIp6 route.ipv6route route.ipv6prefixlen s) st).bundle = st.bundle := by
    induction routes generalizing st with
    | nil => rfl
    | cons route routes ih => rw [List.foldl_cons, ih, State.cacheIp6]
  simp only [takeOver]
  split
  · exact (cached ..).trans rfl
  · exact (cached ..).trans rfl

theorem leaveBundle_bundle (s b : Nat) :
    (leaveBundle st s b).bundle = dropLink st.bundle s b := by
  have again : ∀ (bundle : Nat → Bundle) (first second : Bundle),
      update (update bundle b first) b second =
        update bundle b second := fun bundle first second => update_idem ..
  simp only [leaveBundle, dropLink]
  split_ifs
  · rfl
  · rfl
  · rfl
  · rw [State.emit, takeOver_bundle]
    unfold State.setBundle
    dsimp only
    rw [again, update_self]
  · rw [State.emit]
    unfold State.setBundle
    dsimp only
    rw [again, update_self]

theorem memberPosition_spec {members : Nat → Nat} {count i : Nat} (below : i < count) :
    memberPosition members (members i) count < count ∧
      members (memberPosition members (members i) count) = members i := by
  have found : ((List.range count).find? fun position => members position = members i).isSome := by
    rw [List.find?_isSome]
    exact ⟨i, List.mem_range.mpr below, decide_eq_true rfl⟩
  obtain ⟨position, first⟩ := Option.isSome_iff_exists.mp found
  unfold memberPosition
  rw [first, Option.getD_some]
  have held := List.find?_some first
  rw [decide_eq_true_iff] at held
  exact ⟨List.mem_range.mp (List.mem_of_find?_eq_some first), held⟩

variable {b : Nat} {termCause : Option TermCause} {ip : InAddr}

/-- A link that leaves an open bundle is the last one, which frees the bundle, or is
dropped from the list. -/
theorem dropLink_lists {bundle : Nat → Bundle} {property : Nat → Prop} (real : b ≠ 0)
    (some : 1 ≤ (bundle b).numOfLinks) (room : (bundle b).numOfLinks ≤ maxBundleSes)
    (lists : Lists (bundle b).members (bundle b).numOfLinks property) (member : property s) :
    (∀ x, x ≠ b → dropLink bundle s b x = bundle x) ∧
      ((bundle b).numOfLinks = 1 ∧ dropLink bundle s b b = .zero ∨
        1 ≤ (dropLink bundle s b b).numOfLinks ∧
          (dropLink bundle s b b).numOfLinks ≤ maxBundleSes ∧
          (dropLink bundle s b b).isOpen = (bundle b).isOpen ∧
          Lists (dropLink bundle s b b).members (dropLink bundle s b b).numOfLinks
            (fun x => property x ∧ x ≠ s)) := by
  have twelve : maxBundleSes = 12 := rfl
  obtain ⟨count, links⟩ : ∃ count, (bundle b).numOfLinks = count + 1 :=
    ⟨(bundle b).numOfLinks - 1, by omega⟩
  have left : ((bundle b).numOfLinks + 255) % 2 ^ 8 = count := by omega
  rw [links] at lists
  unfold dropLink
  dsimp only
  rw [left, if_neg real]
  by_cases last : count = 0
  · rw [if_pos last]
    refine ⟨fun x other => update_of_ne other .., .inl ⟨by omega, ?_⟩⟩
    exact update_self ..
  · rw [if_neg last]
    by_cases end_ : (bundle b).members count = s
    · rw [if_pos end_]
      refine ⟨fun x other => update_of_ne other .., .inr ?_⟩
      rw [update_self]
      refine ⟨Nat.one_le_iff_ne_zero.mpr last, ?_, rfl, ?_⟩
      · dsimp only
        omega
      · rw [← end_]
        exact lists.dropLast
    · rw [if_neg end_]
      refine ⟨fun x other => update_of_ne other .., .inr ?_⟩
      rw [update_self]
      refine ⟨Nat.one_le_iff_ne_zero.mpr last, ?_, rfl, ?_⟩
      · dsimp only
        omega
      · obtain ⟨i, below, held⟩ := (lists.complete s).mp member
        have before : i < count := by
          by_contra beyond
          rw [show i = count by omega] at held
          exact end_ held
        obtain ⟨inside, position⟩ := @memberPosition_spec (bundle b).members _ _ before
        rw [held] at inside position
        dsimp only
        have removed := lists.swapRemove inside
        rw [position] at removed
        exact removed

theorem roster_of_ledger (same : st'.ledger = st.ledger) : st'.roster = st.roster := by
  have opened : ∀ s, (st'.session s).opened = (st.session s).opened := fun s =>
    congrArg (fun ledger : Ledger => (ledger.books.standing s).opened) same
  have die : ∀ s, (st'.session s).die = (st.session s).die := fun s =>
    congrArg (fun ledger : Ledger => (ledger.books.standing s).die) same
  have bundle : ∀ s, (st'.session s).bundle = (st.session s).bundle := fun s =>
    congrArg (fun ledger : Ledger => (ledger.holding s).bundle) same
  have ip : ∀ s, (st'.session s).ip = (st.session s).ip := fun s =>
    congrArg (fun ledger : Ledger => (ledger.holding s).ip) same
  have links : st'.bundle = st.bundle := congrArg Ledger.bundle same
  simp only [State.roster, opened, die, bundle, ip, links]

theorem roster_of_estate (same : st'.estate = st.estate) : st'.roster = st.roster := by
  have session : st'.session = st.session := congrArg Estate.session same
  have links : st'.bundle = st.bundle := congrArg Estate.bundle same
  simp only [State.roster, session, links]

theorem dropRoutes_roster (s b : Nat) (delRoutes : Bool) (termCause : Option TermCause) :
    (dropRoutes st s b delRoutes termCause).roster =
      if (st.session s).ip ≠ 0 ∧ termCause ≠ some .callback then
        { st.roster with
          ip := update st.roster.ip s 0
          links := fun x => (dropLink st.bundle s b x).links }
      else st.roster := by
  rw [dropRoutes]
  split
  · have ledger := @unroute6_ledger (unroute st s delRoutes) s delRoutes
    have session := @leaveBundle_session (unroute6 (unroute st s delRoutes) s delRoutes) s b
    have standing : ∀ x, ((unroute6 (unroute st s delRoutes) s delRoutes).session x).standing =
        (st.session x).standing := fun x =>
      (congrArg (fun ledger : Ledger => ledger.books.standing x) ledger).trans
        (congrArg (fun books : Books => books.standing x) (unroute_books s delRoutes))
    have holding : ∀ x, ((unroute6 (unroute st s delRoutes) s delRoutes).session x).holding =
        if x = s then { (st.session x).holding with ip := 0, route := [] }
        else (st.session x).holding := fun x =>
      (congrArg (fun ledger : Ledger => ledger.holding x) ledger).trans (unroute_holding ..)
    have bundle : (unroute6 (unroute st s delRoutes) s delRoutes).bundle = st.bundle :=
      (congrArg Ledger.bundle ledger).trans (unroute_bundle s delRoutes)
    have opened : ∀ x, ((unroute6 (unroute st s delRoutes) s delRoutes).session x).opened =
        (st.session x).opened := fun x => congrArg Standing.opened (standing x)
    have die : ∀ x, ((unroute6 (unroute st s delRoutes) s delRoutes).session x).die =
        (st.session x).die := fun x => congrArg Standing.die (standing x)
    have member : ∀ x, ((unroute6 (unroute st s delRoutes) s delRoutes).session x).bundle =
        (st.session x).bundle := by
      intro x
      refine (congrArg Holding.bundle (holding x)).trans ?_
      split <;> rfl
    have ip : (fun x => ((unroute6 (unroute st s delRoutes) s delRoutes).session x).ip) =
        update (fun x => (st.session x).ip) s 0 := by
      funext x
      refine (congrArg Holding.ip (holding x)).trans ?_
      rw [update_apply]
      split <;> rfl
    simp only [State.roster, session, leaveBundle_bundle, bundle, opened, die, member, ip]
  · rfl

/-- The roster after a shutdown. -/
theorem sessionshutdown_roster (opened : (st.session s).opened ≠ 0) (reason : String)
    (cdnResult cdnError : Nat) (termCause : Option TermCause) :
    (sessionshutdown st s reason cdnResult cdnError termCause).roster =
      if (st.session s).ip ≠ 0 ∧ termCause ≠ some .callback then
        { st.roster with
          die := update st.roster.die s (dieAfter st s)
          ip := update st.roster.ip s 0
          links := fun x => (dropLink st.bundle s (st.session s).bundle x).links }
      else { st.roster with die := update st.roster.die s (dieAfter st s) } := by
  have accounts := @accounted_estate st s reason termCause
  have session : (accounted st s reason termCause).session =
      update st.session s { st.session s with die := dieAfter st s } :=
    congrArg Estate.session accounts
  have bundle : (accounted st s reason termCause).bundle = st.bundle :=
    congrArg Estate.bundle accounts
  have roster : (accounted st s reason termCause).roster =
      { st.roster with die := update st.roster.die s (dieAfter st s) } := by
    have frame {β : Type} (read : Session → β)
        (same : read { st.session s with die := dieAfter st s } = read (st.session s)) :
        (fun x => read ((accounted st s reason termCause).session x)) =
          fun x => read (st.session x) := by
      funext x
      rw [session, update_apply]
      split
      · rename_i here
        rw [here, same]
      · rfl
    have die : (fun x => ((accounted st s reason termCause).session x).die) =
        update (fun x => (st.session x).die) s (dieAfter st s) := by
      funext x
      rw [session, update_apply, update_apply]
      split <;> rfl
    unfold State.roster
    rw [frame Session.opened rfl, frame Session.bundle rfl, frame Session.ip rfl, die, bundle]
  rw [sessionshutdown_eq reason cdnResult cdnError termCause opened,
    roster_of_ledger (finishShutdown_ledger s cdnResult cdnError), dropRoutes_roster,
    accounted_session, bundle, roster]

/-- A link may be shut down for any cause but that it has called back. -/
def MayLeave (st : State) (s : Nat) (termCause : Option TermCause) : Prop :=
  st.roster.Live s → (st.session s).bundle ≠ 0 → termCause ≠ some .callback

theorem dieAfter_nonzero (awake : st.Awake) : dieAfter st s ≠ 0 :=
  fun zero => awake (dieAfter_zero.mp zero).2

/-- A live link is taken off the list of its bundle. -/
theorem Roster.Sound.leave {roster' : Roster} (sound : st.roster.Sound) (real : b ≠ 0)
    (member : st.roster.LinkOf b s) (elsewhere : Roster.Elsewhere st.roster roster' s)
    (links : ∀ x, roster'.links x = (dropLink st.bundle s b x).links) (dead : ¬ roster'.Live s)
    (gone : roster'.opened s ≠ 0 → roster'.die s ≠ 0 → roster'.bundle s ≠ 0 → roster'.ip s = 0) :
    roster'.Sound := by
  have listed := sound.listed b (sound.isOpen real member)
  obtain ⟨others, left⟩ := dropLink_lists real listed.some listed.room listed.lists member
  have unchanged : ∀ x, x ≠ b → roster'.links x = st.roster.links x := by
    intro x other
    rw [links, others x other]
    rfl
  have kept : ∀ x y, x ≠ b → (roster'.LinkOf x y ↔ st.roster.LinkOf x y) := by
    intro x y other
    by_cases here : y = s
    · rw [here]
      exact iff_of_false (fun link => dead link.1)
        fun link => other (link.2.symm.trans member.2)
    · exact elsewhere.linkOf here
  have remaining : ∀ y, roster'.LinkOf b y ↔ st.roster.LinkOf b y ∧ y ≠ s := by
    intro y
    by_cases here : y = s
    · rw [here]
      exact iff_of_false (fun link => dead link.1) fun both => both.2 rfl
    · rw [elsewhere.linkOf here]
      exact ⟨fun link => ⟨link, here⟩, And.left⟩
  obtain ⟨addressed, gone⟩ := elsewhere.addresses sound (fun live => absurd live dead) gone
  refine ⟨?_, fun x isOpen => ?_, fun x real' closed y => ?_, addressed, gone⟩
  · rw [unchanged 0 real.symm]
    exact sound.root
  · by_cases here : x = b
    · subst here
      rw [links] at isOpen
      rcases left with ⟨_, freed⟩ | ⟨some, room, _, lists⟩
      · rw [freed] at isOpen
        exact nomatch isOpen
      · refine ⟨?_, ?_, ?_⟩
        · rw [links]
          exact some
        · rw [links]
          exact room
        · rw [links]
          exact lists.congr remaining
    · rw [unchanged x here] at isOpen
      have listed := sound.listed x isOpen
      refine ⟨?_, ?_, ?_⟩
      · rw [unchanged x here]
        exact listed.some
      · rw [unchanged x here]
        exact listed.room
      · rw [unchanged x here]
        exact listed.lists.congr fun y => kept x y here
  · by_cases here : x = b
    · subst here
      rcases left with ⟨single, _⟩ | ⟨_, _, isOpen, _⟩
      · -- the link that left was the only one
        rw [remaining]
        rintro ⟨link, other⟩
        obtain ⟨i, below, held⟩ := (listed.lists.complete y).mp link
        obtain ⟨j, below', held'⟩ := (listed.lists.complete s).mp member
        have alone : (st.roster.links x).count = 1 := single
        rw [← held, ← held', show i = j by omega] at other
        exact other rfl
      · have still : (roster'.links x).isOpen = (st.roster.links x).isOpen := by
          rw [links]
          exact isOpen
        rw [still, sound.isOpen real member] at closed
        exact nomatch closed
    · rw [unchanged x here] at closed
      rw [kept x y here]
      exact sound.free x real' closed y

theorem Roster.Sound.sessionshutdown (sound : st.roster.Sound) (awake : st.Awake)
    (mayLeave : MayLeave st s termCause) (reason : String) (cdnResult cdnError : Nat) :
    (sessionshutdown st s reason cdnResult cdnError termCause).roster.Sound ∧
      ¬ (sessionshutdown st s reason cdnResult cdnError termCause).roster.Live s := by
  by_cases closed : (st.session s).opened = 0
  · rw [Server.sessionshutdown, if_pos closed]
    exact ⟨sound, fun live => live.1 closed⟩
  have dies := dieAfter_nonzero (s := s) awake
  rw [sessionshutdown_roster closed reason cdnResult cdnError termCause]
  have others : ∀ (ip : InAddr) (x : Nat), x ≠ s →
      update st.roster.die s (dieAfter st s) x = st.roster.die x ∧
        update st.roster.ip s ip x = st.roster.ip x :=
    fun ip x other => ⟨update_of_ne other .., update_of_ne other ..⟩
  have dying : update st.roster.die s (dieAfter st s) s ≠ 0 := by
    rw [update_self]
    exact dies
  by_cases drops : (st.session s).ip ≠ 0 ∧ termCause ≠ some .callback
  · rw [if_pos drops]
    refine ⟨?_, fun live => dying live.2⟩
    by_cases linked : st.roster.Live s ∧ (st.session s).bundle ≠ 0
    · exact sound.leave linked.2 ⟨linked.1, rfl⟩
        ⟨fun _ _ => rfl, fun x other => (others 0 x other).1, fun _ _ => rfl,
          fun x other => (others 0 x other).2⟩
        (fun _ => rfl) (fun live => dying live.2) (fun _ _ _ => update_self ..)
    · -- a session that has an address but is no live link is in no bundle
      have unlinked : (st.session s).bundle = 0 := by
        by_contra real
        by_cases live : st.roster.Live s
        · exact linked ⟨live, real⟩
        · exact drops.1 (sound.gone s closed (fun alive => live ⟨closed, alive⟩) real)
      have apart : Roster.Elsewhere st.roster
          { st.roster with
            die := update st.roster.die s (dieAfter st s)
            ip := update st.roster.ip s 0
            links := fun x => (dropLink st.bundle s (st.session s).bundle x).links } s :=
        ⟨fun _ _ => rfl, fun x other => (others 0 x other).1, fun _ _ => rfl,
          fun x other => (others 0 x other).2⟩
      apply sound.elsewhere apart
      · intro b
        simp only [dropLink, if_pos unlinked]
        rfl
      · exact fun b real link => real (link.2.symm.trans unlinked)
      · exact fun b _ link => dying link.1.2
      · exact fun _ _ _ => update_self ..
  · rw [if_neg drops]
    refine ⟨?_, fun live => dying live.2⟩
    have unlinked : ∀ b, b ≠ 0 → ¬ st.roster.LinkOf b s := by
      rintro b real link
      have member : (st.session s).bundle ≠ 0 := fun none => real (link.2.symm.trans none)
      exact drops ⟨sound.addressed s link.1 member, mayLeave link.1 member⟩
    have apart : Roster.Elsewhere st.roster
        { st.roster with die := update st.roster.die s (dieAfter st s) } s :=
      ⟨fun _ _ => rfl, fun x other => (others 0 x other).1, fun _ _ => rfl, fun _ _ => rfl⟩
    apply sound.elsewhere apart
    · exact fun _ => rfl
    · exact unlinked
    · exact fun b _ link => dying link.1.2
    · intro opened _ member
      by_cases live : st.roster.Live s
      · exact absurd ⟨live, rfl⟩ (unlinked _ member)
      · exact sound.gone s closed (fun alive => live ⟨closed, alive⟩) member

theorem sessionshutdown_dead (awake : st.Awake) {x : Nat} (dead : ¬ st.roster.Live x)
    (reason : String) (cdnResult cdnError : Nat) (termCause : Option TermCause) :
    ¬ (sessionshutdown st s reason cdnResult cdnError termCause).roster.Live x := by
  by_cases closed : (st.session s).opened = 0
  · rw [sessionshutdown, if_pos closed]
    exact dead
  have dies : ∀ opened, ¬ (opened ≠ 0 ∧ st.roster.die x = 0) →
      ¬ (opened ≠ 0 ∧ update st.roster.die s (dieAfter st s) x = 0) := by
    intro opened dead
    rw [update_apply]
    split
    · exact fun live => dieAfter_nonzero awake live.2
    · exact dead
  rw [sessionshutdown_roster closed]
  split
  · exact dies _ dead
  · exact dies _ dead

theorem State.emit_roster (effect : Effect) : (st.emit effect).roster = st.roster := rfl

theorem State.setPool_roster (i : Nat) (change : IpPool → IpPool) :
    (st.setPool i change).roster = st.roster := rfl

theorem sessionclear_roster (st : State) (s : Nat) :
    (sessionclear st s).roster =
      { st.roster with
        opened := update st.roster.opened s 0
        die := update st.roster.die s 0
        bundle := update st.roster.bundle s 0
        ip := update st.roster.ip s 0 } := by
  have cleared {β : Type} (read : Session → β)
      (relinks : ∀ (session : Session) (next : Nat),
        read { session with next := next } = read session) :
      (fun x => read ((sessionclear st s).session x)) =
        update (fun x => read (st.session x)) s (read .zero) := by
    funext x
    simp only [sessionclear]
    rw [setSession_frame read (relinks _ _), setSession_frame read (relinks _ _),
      setLocal_session, update_apply]
    split
    · rename_i here
      rw [here, setSession_same]
    · rename_i other
      rw [setSession_other other]
  unfold State.roster
  rw [cleared Session.opened fun _ _ => rfl, cleared Session.die fun _ _ => rfl,
    cleared Session.bundle fun _ _ => rfl, cleared Session.ip fun _ _ => rfl]
  rfl

/-- A session that is no live link is cleared. -/
theorem Roster.Sound.sessionclear (sound : st.roster.Sound) (dead : ¬ st.roster.Live s) :
    (sessionclear st s).roster.Sound := by
  rw [sessionclear_roster]
  have apart : Roster.Elsewhere st.roster { st.roster with
      opened := update st.roster.opened s 0
      die := update st.roster.die s 0
      bundle := update st.roster.bundle s 0
      ip := update st.roster.ip s 0 } s :=
    ⟨fun _ other => update_of_ne other .., fun _ other => update_of_ne other ..,
      fun _ other => update_of_ne other .., fun _ other => update_of_ne other ..⟩
  have closed : update st.roster.opened s 0 s = 0 := update_self ..
  apply sound.elsewhere apart
  · exact fun _ => rfl
  · exact fun _ _ link => dead link.1
  · exact fun _ _ link => link.1.1 closed
  · exact fun opened => absurd closed opened

theorem Roster.Sound.shutForKill (sound : st.roster.Sound) (awake : st.Awake)
    (mayLeave : MayLeave st s termCause) (reason : Option String) :
    (shutForKill st s reason termCause).roster.Sound ∧
      ¬ (shutForKill st s reason termCause).roster.Live s := by
  rw [Server.shutForKill]
  split
  · exact sound.sessionshutdown awake mayLeave ..
  · rename_i dying
    exact ⟨sound, fun live => dying live.2⟩

theorem shutLinked_time (s : Nat) (reason : Option String) :
    (shutLinked st s reason).time = st.time := by
  simp only [shutLinked]
  split
  · exact sessionshutdown_time ..
  · rfl

theorem Roster.Sound.shutLinked (sound : st.roster.Sound) (awake : st.Awake)
    (dead : ¬ st.roster.Live s) (reason : Option String) :
    (shutLinked st s reason).roster.Sound ∧ ¬ (shutLinked st s reason).roster.Live s := by
  simp only [Server.shutLinked]
  split
  · have other : MayLeave st (st.session s).forwardtosession (some .adminReset) :=
      fun _ _ => by decide
    exact ⟨(sound.sessionshutdown awake other ..).1, sessionshutdown_dead awake dead _ _ _ _⟩
  · exact ⟨sound, dead⟩

theorem sessionkill_time (st : State) (s : Nat) (reason : Option String)
    (termCause : Option TermCause) :
    (sessionkill st s reason termCause).time = st.time := by
  have clock : ∀ st : State, ((sessionclear st s).emit (.clusterSession s)).time = st.time :=
    fun _ => rfl
  simp only [sessionkill]
  split_ifs
  · rfl
  · rfl
  · rw [clock, shutLinked_time]
    exact (congrArg Estate.time (releaseSlot_estate s)).trans (shutForKill_time ..)

/-- A kill takes the session off the list of its bundle. -/
theorem Roster.Sound.sessionkill (sound : st.roster.Sound) (awake : st.Awake)
    (mayLeave : MayLeave st s termCause) (reason : Option String) :
    (sessionkill st s reason termCause).roster.Sound := by
  simp only [Server.sessionkill]
  split_ifs
  · exact sound
  · exact sound
  · have estate := @releaseSlot_estate (Server.shutForKill st s reason termCause) s
    have released : (releaseSlot (Server.shutForKill st s reason termCause) s).roster =
        (Server.shutForKill st s reason termCause).roster := roster_of_estate estate
    have clock : (releaseSlot (Server.shutForKill st s reason termCause) s).time = st.time :=
      (congrArg Estate.time estate).trans (shutForKill_time ..)
    obtain ⟨shut, dead⟩ := sound.shutForKill awake mayLeave reason
    rw [← released] at shut dead
    have awake' : (releaseSlot (Server.shutForKill st s reason termCause) s).Awake := by
      rw [State.Awake, clock]
      exact awake
    obtain ⟨linked, dead⟩ := shut.shutLinked awake' dead reason
    rw [emit_roster]
    exact linked.sessionclear dead

namespace Roster

variable {roster roster' : Roster}

theorem Sound.join {b : Nat} (sound : roster.Sound) (real : b ≠ 0)
    (elsewhere : Elsewhere roster roster' s) (unlinked : roster.bundle s = 0)
    (member : roster'.LinkOf b s) (address : roster'.ip s ≠ 0)
    (others : ∀ x, x ≠ b → roster'.links x = roster.links x)
    (isOpen : (roster'.links b).isOpen = true) (some : 1 ≤ (roster'.links b).count)
    (room : (roster'.links b).count ≤ maxBundleSes)
    (lists : Lists (roster'.links b).members (roster'.links b).count
      fun x => roster.LinkOf b x ∨ x = s) :
    roster'.Sound := by
  have joined : ∀ y, roster'.LinkOf b y ↔ roster.LinkOf b y ∨ y = s := by
    intro y
    by_cases here : y = s
    · rw [here]
      exact iff_of_true member (.inr rfl)
    · rw [elsewhere.linkOf here]
      exact ⟨.inl, fun either => either.resolve_right here⟩
  have kept : ∀ x y, x ≠ 0 → x ≠ b → (roster'.LinkOf x y ↔ roster.LinkOf x y) := by
    intro x y proper other
    by_cases here : y = s
    · rw [here]
      exact iff_of_false (fun link => other (link.2.symm.trans member.2))
        fun link => proper (link.2.symm.trans unlinked)
    · exact elsewhere.linkOf here
  obtain ⟨addressed, gone⟩ := elsewhere.addresses sound (fun _ _ => address)
    fun _ dying _ => absurd member.1.2 dying
  refine ⟨?_, fun x open_ => ?_, fun x proper closed y => ?_, addressed, gone⟩
  · rw [others 0 real.symm]
    exact sound.root
  · by_cases here : x = b
    · subst here
      exact ⟨some, room, lists.congr joined⟩
    · rw [others x here] at open_
      have listed := sound.listed x open_
      have proper := sound.open_nonzero open_
      refine ⟨?_, ?_, ?_⟩
      · rw [others x here]
        exact listed.some
      · rw [others x here]
        exact listed.room
      · rw [others x here]
        exact listed.lists.congr fun y => kept x y proper here
  · by_cases here : x = b
    · rw [here, isOpen] at closed
      exact nomatch closed
    · rw [others x here] at closed
      rw [kept x y proper here]
      exact sound.free x proper closed y

end Roster

/-- A free entry of the table of bundles. -/
def freeBundle (st : State) : Option Nat :=
  (List.range' 1 (maxBundle - 1)).find? fun b => ¬ (st.bundle b).isOpen

/-- A session that is set up looks for a bundle. -/
def WantsBundle (st : State) (s : Nat) : Prop :=
  0 < (st.session s).mrru ∧ (st.session s).bundle = 0

instance (st : State) (s : Nat) : Decidable (WantsBundle st s) :=
  inferInstanceAs (Decidable (_ ∧ _))

/-- The bundle of the other links that a session joins when it is set up. -/
def joinsBundle (st : State) (s : Nat) : Option Nat :=
  if WantsBundle st s then
    (findBundle st s).filter fun b => (st.bundle b).mssf = (st.session s).mssf
  else none

/-- The bundle of a session that is set up, 0 if it has none, unless it is refused. -/
def bundleFor (st : State) (s : Nat) : Option Nat :=
  if WantsBundle st s then
    if (findBundle st s).isSome then joinsBundle st s else freeBundle st
  else (st.session s).bundle

def poolAddress (st : State) (s : Nat) : InAddr :=
  match bestAddress st (st.session s).user (st.session s).walledGarden (st.ipPoolSize - 1) 1 none
    st.timeNow with
  | some best => (st.ipAddressPool best).address
  | none => 0

def ownAddress (st : State) (s : Nat) : InAddr :=
  if (st.session s).ip = 0 then poolAddress st s else (st.session s).ip

/-- The address of a session that is set up, 0 if there is none. -/
def addressFor (st : State) (s : Nat) : InAddr :=
  match joinsBundle st s with
  | some b => (st.session ((st.bundle b).members 0)).ip
  | none => ownAddress st s

/-- The roster after a session has become a link of an open bundle. -/
def Roster.withLink (roster : Roster) (s b : Nat) (ip : InAddr) (links : Links) : Roster :=
  { roster with
    bundle := Function.update roster.bundle s b
    ip := Function.update roster.ip s ip
    links := Function.update roster.links b links }

/-- How setup finds the bundle of a session. -/
inductive Bundled (st : State) (s : Nat) : State → Bool → Prop where
  | keeps (known : bundleFor st s = some (st.session s).bundle) (alone : joinsBundle st s = none) :
      Bundled st s st true
  | joins {st' : State} (b : Nat) (unlinked : (st.session s).bundle = 0)
      (real : b ≠ 0) (isOpen : (st.bundle b).isOpen = true)
      (joins : joinsBundle st s = some b) (known : bundleFor st s = some b)
      (books : st'.books = st.books)
      (roster : st'.roster = st.roster.withLink s b (st.session ((st.bundle b).members 0)).ip
        ⟨true, ((st.bundle b).numOfLinks + 1) % 2 ^ 8,
          Function.update (st.bundle b).members (st.bundle b).numOfLinks s⟩) :
      Bundled st s st' true
  | opens {st' : State} (b : Nat) (unlinked : (st.session s).bundle = 0)
      (real : b ≠ 0) (free : (st.bundle b).isOpen = false)
      (alone : joinsBundle st s = none) (known : bundleFor st s = some b)
      (books : st'.books = st.books) (address : ownAddress st' s = ownAddress st s)
      (roster : st'.roster = st.roster.withLink s b (st.session s).ip
        ⟨true, 1, Function.update (st.bundle b).members 0 s⟩) :
      Bundled st s st' true
  | refuses (unlinked : (st.session s).bundle = 0) :
      Bundled st s (sessionshutdown st s "Mismaching mssf option." 0 0 (some .serviceUnavailable))
        false

theorem State.setSession_roster {change : Session → Session}
    (opened : (change (st.session s)).opened = (st.session s).opened)
    (die : (change (st.session s)).die = (st.session s).die) :
    (st.setSession s change).roster =
      { st.roster with
        bundle := update st.roster.bundle s (change (st.session s)).bundle
        ip := update st.roster.ip s (change (st.session s)).ip } := by
  have moved {β : Type} (read : Session → β) :
      (fun x => read ((st.setSession s change).session x)) =
        update (fun x => read (st.session x)) s (read (change (st.session s))) := by
    funext x
    rw [update_apply]
    split
    · rename_i here
      rw [here, setSession_same]
    · rename_i other
      rw [setSession_other other]
  have opens : (fun x => ((st.setSession s change).session x).opened) =
      fun x => (st.session x).opened := funext (setSession_frame Session.opened opened)
  have dies : (fun x => ((st.setSession s change).session x).die) =
      fun x => (st.session x).die := funext (setSession_frame Session.die die)
  unfold State.roster
  rw [moved Session.bundle, moved Session.ip, opens, dies]
  rfl

theorem State.setSession_sameRoster {change : Session → Session}
    (opened : (change (st.session s)).opened = (st.session s).opened)
    (die : (change (st.session s)).die = (st.session s).die)
    (bundle : (change (st.session s)).bundle = (st.session s).bundle)
    (ip : (change (st.session s)).ip = (st.session s).ip) :
    (st.setSession s change).roster = st.roster := by
  rw [setSession_roster opened die, bundle, ip]
  have same {β : Type} (f : Nat → β) : update f s (f s) = f :=
    update_eq_self ..
  exact congrArg₂ (fun bundle ip => { st.roster with bundle := bundle, ip := ip })
    (same st.roster.bundle) (same st.roster.ip)

theorem State.setBundle_books (b : Nat) (change : Bundle → Bundle) :
    (st.setBundle b change).books = st.books := rfl

theorem State.setBundle_roster (b : Nat) (change : Bundle → Bundle) :
    (st.setBundle b change).roster =
      { st.roster with
        links := update st.roster.links b (change (st.bundle b)).links } := by
  have links : (fun x => ((st.setBundle b change).bundle x).links) =
      update (fun x => (st.bundle x).links) b (change (st.bundle b)).links := by
    funext x
    simp only [State.setBundle, update_apply]
    split <;> rfl
  unfold State.roster
  rw [links]
  rfl

theorem bestAddress_congr (same : st'.ipAddressPool = st.ipAddressPool) (user : List UInt8)
    (walledGarden : Bool) (left i : Nat) (best : Option Nat) (bestTime : Nat) :
    bestAddress st' user walledGarden left i best bestTime =
      bestAddress st user walledGarden left i best bestTime := by
  induction left generalizing i best bestTime with
  | zero => rfl
  | succ left ih =>
      simp only [bestAddress, same, ih]

theorem ownAddress_congr (pool : st'.ipAddressPool = st.ipAddressPool)
    (size : st'.ipPoolSize = st.ipPoolSize) (timeNow : st'.timeNow = st.timeNow)
    (user : (st'.session s).user = (st.session s).user)
    (walledGarden : (st'.session s).walledGarden = (st.session s).walledGarden)
    (ip : (st'.session s).ip = (st.session s).ip) : ownAddress st' s = ownAddress st s := by
  unfold ownAddress poolAddress
  rw [ip, user, walledGarden, size, timeNow, bestAddress_congr pool, pool]

theorem emit_ownAddress (effect : Effect) (s : Nat) :
    ownAddress (st.emit effect) s = ownAddress st s :=
  ownAddress_congr rfl rfl rfl rfl rfl rfl

theorem ownAddress_linked (st : State) (s b : Nat) (change : Bundle → Bundle) :
    ownAddress ((st.setSession s fun session => { session with bundle := b }).setBundle b change)
      s = ownAddress st s := by
  apply ownAddress_congr
  · rfl
  · rfl
  · rfl
  · rw [setBundle_session, setSession_same]
  · rw [setBundle_session, setSession_same]
  · rw [setBundle_session, setSession_same]

theorem findBundle_spec (found : findBundle st s = some b) :
    b ≠ 0 ∧ (st.bundle b).isOpen = true := by
  have among := List.mem_of_find?_eq_some found
  rw [List.mem_range'_1] at among
  have fits := List.find?_some found
  simp only [matchesBundle, Bool.and_eq_true] at fits
  exact ⟨by omega, fits.1.1⟩

theorem freeBundle_spec (found : freeBundle st = some b) :
    b ≠ 0 ∧ (st.bundle b).isOpen = false := by
  have among := List.mem_of_find?_eq_some found
  rw [List.mem_range'_1] at among
  have fits := List.find?_some found
  simp only [decide_eq_true_iff] at fits
  exact ⟨by omega, Bool.eq_false_of_not_eq_true fits⟩

theorem joinBundle_joins (found : findBundle st s = some b)
    (alike : (st.bundle b).mssf = (st.session s).mssf) :
    (joinBundle st s).2 = b ∧ (joinBundle st s).1.books = st.books ∧
      (joinBundle st s).1.roster =
        st.roster.withLink s b (st.session ((st.bundle b).members 0)).ip
          ⟨true, ((st.bundle b).numOfLinks + 1) % 2 ^ 8,
            update (st.bundle b).members (st.bundle b).numOfLinks s⟩ := by
  simp only [joinBundle, found]
  rw [if_neg (not_not.mpr alike)]
  refine ⟨rfl, ?_, ?_⟩
  · exact (setBundle_books ..).trans (setSession_books rfl)
  · rw [setBundle_roster, setSession_roster rfl rfl, ← (findBundle_spec found).2]
    rfl

theorem newBundle_opens (free : freeBundle st = some b) :
    (newBundle st).2 = b ∧ (newBundle st).1.books = st.books ∧
      (newBundle st).1.session = st.session ∧ ownAddress (newBundle st).1 s = ownAddress st s ∧
      (newBundle st).1.roster = { st.roster with
        links := update st.roster.links b ⟨true, 1, (st.bundle b).members⟩ } ∧
      ((newBundle st).1.bundle b).links = ⟨true, 1, (st.bundle b).members⟩ := by
  rw [freeBundle] at free
  rw [newBundle, free]
  refine ⟨rfl, rfl, rfl, ownAddress_congr rfl rfl rfl rfl rfl rfl, ?_, ?_⟩
  · exact (@State.setBundle_roster st b fun bundle =>
      { bundle with
        numOfLinks := 1
        lastCheck := st.timeNow
        isOpen := true
        currentSes := 2 ^ 16 - 1 } :)
  · dsimp only [State.setBundle]
    rw [update_self]
    rfl

theorem joinBundle_opens (none : findBundle st s = none) (free : freeBundle st = some b) :
    (joinBundle st s).2 = b ∧ (joinBundle st s).1.books = st.books ∧
      ownAddress (joinBundle st s).1 s = ownAddress st s ∧
      (joinBundle st s).1.roster = st.roster.withLink s b (st.session s).ip
        ⟨true, 1, update (st.bundle b).members 0 s⟩ := by
  obtain ⟨entry, books, session, address, roster, links⟩ := newBundle_opens (s := s) free
  simp only [joinBundle, none, entry]
  rw [if_neg (freeBundle_spec free).1]
  generalize (newBundle st).1 = opened at books session address roster links ⊢
  have members : (opened.bundle b).members = (st.bundle b).members :=
    congrArg Links.members links
  have isOpen : (opened.bundle b).isOpen = true := congrArg Links.isOpen links
  have count : (opened.bundle b).numOfLinks = 1 := congrArg Links.count links
  refine ⟨rfl, ?_, ?_, ?_⟩
  · exact (setBundle_books ..).trans ((setSession_books rfl).trans books)
  · rw [ownAddress_linked, address]
  · rw [setBundle_roster, setSession_roster rfl rfl, roster, session]
    change Roster.mk _ _ _ _ (update (update st.roster.links b _) b
      ⟨(opened.bundle b).isOpen, (opened.bundle b).numOfLinks,
        update (opened.bundle b).members 0 s⟩) = _
    rw [members, isOpen, count]
    have again : ∀ first second : Links,
        update (update st.roster.links b first) b second =
          update st.roster.links b second := fun first second => update_idem ..
    rw [again]
    rfl

theorem setupBundle_granted (wants : WantsBundle st s) (real : b ≠ 0)
    (joined : (joinBundle st s).2 = b) :
    setupBundle st s =
      ((joinBundle st s).1.emit (.clusterBundle ((joinBundle st s).1.session s).bundle), true) := by
  have looks : 0 < (st.session s).mrru ∧ (st.session s).bundle = 0 := wants
  simp only [setupBundle]
  rw [if_pos looks, joined, if_pos (Int.natCast_pos.mpr (Nat.pos_of_ne_zero real))]

theorem setupBundle_refused (wants : WantsBundle st s) {b : Int} (none : ¬ 0 < b)
    (join : joinBundle st s = (st, b)) :
    setupBundle st s =
      (sessionshutdown st s "Mismaching mssf option." 0 0 (some .serviceUnavailable), false) := by
  have looks : 0 < (st.session s).mrru ∧ (st.session s).bundle = 0 := wants
  simp only [setupBundle]
  rw [if_pos looks, join, if_neg none]

theorem setupBundle_spec (st : State) (s : Nat) :
    Bundled st s (setupBundle st s).1 (setupBundle st s).2 := by
  by_cases wants : WantsBundle st s
  · have unlinked := wants.2
    cases found : findBundle st s with
    | some b =>
        obtain ⟨real, isOpen⟩ := findBundle_spec found
        by_cases alike : (st.bundle b).mssf = (st.session s).mssf
        · have joins : joinsBundle st s = some b := by
            rw [joinsBundle, if_pos wants, found, Option.filter_some, if_pos (decide_eq_true alike)]
          have known : bundleFor st s = some b := by
            rw [bundleFor, if_pos wants, found, Option.isSome_some, if_pos rfl, joins]
          obtain ⟨join, books, roster⟩ := joinBundle_joins found alike
          rw [setupBundle_granted wants real join]
          exact .joins b unlinked real isOpen joins known
            ((emit_books _ rfl).trans books) roster
        · have join : joinBundle st s = (st, -1) := by
            simp only [joinBundle, found]
            exact if_pos alike
          rw [setupBundle_refused wants (by decide) join]
          exact .refuses unlinked
    | none =>
        have alone : joinsBundle st s = none := by
          rw [joinsBundle, if_pos wants, found, Option.filter_none]
        cases free : freeBundle st with
        | some b =>
            obtain ⟨real, closed⟩ := freeBundle_spec free
            have known : bundleFor st s = some b := by
              rw [bundleFor, if_pos wants, found, Option.isSome_none, if_neg (by simp), free]
            obtain ⟨join, books, address, roster⟩ := joinBundle_opens found free
            rw [setupBundle_granted wants real join]
            exact .opens b unlinked real closed alone known
              ((emit_books _ rfl).trans books)
              ((emit_ownAddress ..).trans address) roster
        | none =>
            have fresh : newBundle st = (st, 0) := by
              rw [freeBundle] at free
              rw [newBundle, free]
            have join : joinBundle st s = (st, 0) := by
              simp only [joinBundle, found, fresh, if_true]
            rw [setupBundle_refused wants (by decide) join]
            exact .refuses unlinked
  · have result : setupBundle st s = (st, true) := if_neg wants
    rw [result]
    apply Bundled.keeps
    · rw [bundleFor, if_neg wants]
    · rw [joinsBundle, if_neg wants]

theorem sessionkill_config (st : State) (s : Nat) (reason : Option String)
    (termCause : Option TermCause) :
    (sessionkill st s reason termCause).config = st.config := by
  obtain ⟨same, _⟩ | ⟨_, _, st', kept, killed⟩ := sessionkill_cases st s reason termCause
  · rw [same]
  · rw [killed]
    exact kept.config

theorem sessionkill_dead (st : State) (s : Nat) (reason : Option String)
    (termCause : Option TermCause) :
    sessionkill st s reason termCause = st ∨
      ¬ (sessionkill st s reason termCause).roster.Live s := by
  obtain ⟨same, _⟩ | ⟨_, _, st', _, killed⟩ := sessionkill_cases st s reason termCause
  · exact .inl same
  · right
    rw [killed, emit_roster, sessionclear_roster]
    have closed : update st'.roster.opened s 0 s = 0 := update_self ..
    exact fun live => live.1 closed

/-- No link of a bundle is killed because it is set up with the address of another session. -/
def Spared (st : State) (s : Nat) (ip : InAddr) (count : Nat) : Prop :=
  st.config.suicideDuplicateIp → st.roster.Live s → (st.session s).bundle ≠ 0 →
    ∀ i, i ≠ s → i ≠ 0 → i ≤ count → (st.session i).ip = ip →
      (st.session i).bundle = (st.session s).bundle

/-- What holds while a session is set up and others are zapped. -/
structure Zapping (st : State) (s : Nat) (ip : InAddr) (count : Nat) : Prop where
  sound : st.roster.Sound
  awake : st.Awake
  spared : Spared st s ip count

theorem Zapping.sessionshutdown {count i : Nat} (zapping : Zapping st s ip count)
    (nonzero : ip ≠ 0) (reason : String) (cdnResult cdnError : Nat) :
    Zapping (sessionshutdown st i reason cdnResult cdnError (some .adminReset)) s ip count := by
  have mayLeave : MayLeave st i (some .adminReset) := fun _ _ => by decide
  have kept : Kept st (Server.sessionshutdown st i reason cdnResult cdnError (some .adminReset)) :=
    sessionshutdown_kept ..
  refine ⟨(zapping.sound.sessionshutdown zapping.awake mayLeave ..).1, ?_, ?_⟩
  · rw [State.Awake, sessionshutdown_time]
    exact zapping.awake
  · intro suicide live member x other some within same
    rw [kept.config] at suicide
    rw [sessionshutdown_bundle] at member
    rw [sessionshutdown_bundle, sessionshutdown_bundle]
    have alive : st.roster.Live s := by
      by_contra dead
      exact sessionshutdown_dead zapping.awake dead _ _ _ _ live
    apply zapping.spared suicide alive member x other some within
    obtain held | taken := sessionshutdown_holding st i reason cdnResult cdnError
      (Option.some .adminReset) x
    · exact (congrArg Holding.ip held).symm.trans same
    · exact absurd (same.symm.trans (congrArg Holding.ip taken :)) nonzero

theorem Zapping.zapSession {count i : Nat} (zapping : Zapping st s ip count)
    (nonzero : ip ≠ 0) (other : i ≠ s) (some : i ≠ 0) (within : i ≤ count) :
    Zapping (zapSession st s ip i) s ip count := by
  simp only [Server.zapSession]
  split_ifs with linked same suicide
  · exact zapping
  · have mayLeave : MayLeave st s (Option.some .callback) := by
      intro live member
      have together := zapping.spared suicide live member i other some within same.symm
      exact absurd ⟨member, together ▸ member, together.symm⟩ linked
    obtain same | dead := sessionkill_dead st s (Option.some "Duplicate IP. Suiciding")
      (Option.some .callback)
    · rw [same]
      exact zapping
    · refine ⟨zapping.sound.sessionkill zapping.awake mayLeave _, ?_,
        fun _ live => absurd live dead⟩
      rw [State.Awake, sessionkill_time]
      exact zapping.awake
  · exact zapping
  · have mayLeave : MayLeave st i (Option.some .adminReset) := fun _ _ => by decide
    refine ⟨zapping.sound.sessionkill zapping.awake mayLeave _, ?_, fun kills => ?_⟩
    · rw [State.Awake, sessionkill_time]
      exact zapping.awake
    · rw [sessionkill_config] at kills
      exact absurd kills suicide
  · exact zapping
  · exact zapping
  · exact zapping
  · exact zapping.sessionshutdown nonzero _ _ _
  · exact zapping

theorem Zapping.zapSessions {n : Nat} (nonzero : ip ≠ 0) (count : Nat) :
    ∀ (i : Nat) (st : State), i ≠ 0 → i + count ≤ n + 1 → Zapping st s ip n →
      Zapping (zapSessions st s ip i count) s ip n := by
  induction count with
  | zero => exact fun _ _ _ _ zapping => zapping
  | succ count ih =>
      intro i st some within zapping
      rw [Server.zapSessions]
      split_ifs with same closed
      · exact ih (i + 1) st (Nat.succ_ne_zero i) (by omega) zapping
      · exact zapping
      · exact ih (i + 1) _ (Nat.succ_ne_zero i) (by omega)
          (zapping.zapSession nonzero same some (by omega))

theorem setupRoutes_roster (s : Nat) : (setupRoutes st s).roster = st.roster := by
  have routed := routesetAll_bundle s true (st.session s).route st
  have links : (setupRoutes st s).bundle = st.bundle := by
    simp only [setupRoutes]
    split_ifs
    · exact routed
    · exact (routeset_bundle ..).trans routed
    · exact routed
    · rfl
  simp only [State.roster, setupRoutes_session, links]

theorem changeState_roster (s : Nat) (fsm : Fsm) (new : FsmState) :
    (changeState st s fsm new).roster = st.roster := by
  simp only [changeState]
  split
  · rfl
  · rw [emit_roster, setSession_sameRoster rfl rfl rfl rfl]
    split <;> rfl

theorem restartTimer_roster (s : Nat) (fsm : Fsm) : (restartTimer st s fsm).roster = st.roster :=
  rfl

theorem sendipcp_roster (s : Nat) : (sendipcp st s).roster = st.roster := by
  simp only [sendipcp]
  rw [restartTimer_roster, emit_roster]
  split
  · rw [setSession_sameRoster rfl rfl rfl rfl]
    rfl
  · rfl

theorem sendipv6cp_roster (s : Nat) : (sendipv6cp st s).roster = st.roster := rfl

theorem radiussend_estate (r : Nat) {request : RadiusState} (accounting : request.isAuth = false) :
    (radiussend st r request).estate = st.estate := by
  simp only [radiussend, radiussendOr, accounting, Bool.false_eq_true, if_false]
  split_ifs
  all_goals first
    | rfl
    | exact radiusclear_estate ..

theorem ipcpOpen_roster (s : Nat) : (ipcpOpen st s).roster = st.roster := by
  have upward {st' : State} (same : st'.roster = st.roster) :
      (if (st'.session s).ppp.ipv6cp = .stopped then
        changeState (sendipv6cp st' s) s .ipv6cp .requestSent else st').roster = st.roster := by
    split
    · rw [changeState_roster, sendipv6cp_roster, same]
    · exact same
  have opened : (changeState st s .ipcp .opened).roster = st.roster := changeState_roster ..
  simp only [ipcpOpen]
  apply upward
  split_ifs
  · exact opened
  · exact (roster_of_estate (radiusnew_estate _ s)).trans opened
  · rw [emit_roster, setSession_sameRoster rfl rfl rfl rfl,
      roster_of_estate (radiussend_estate _ rfl), roster_of_estate (radiusnew_estate _ s), opened]

theorem lcpOpen_roster (authenticated : (st.sessLocal s).lcpAuthtype = 0) :
    (lcpOpen st s).roster = st.roster := by
  let entered := st.setSession s fun session =>
    { session with ppp := { session.ppp with phase := .network } }
  have opened : (changeState entered s .lcp .opened).roster = st.roster :=
    (changeState_roster ..).trans (setSession_sameRoster rfl rfl rfl rfl)
  simp only [lcpOpen, authenticated]
  rw [if_neg (not_not.mpr rfl), if_neg (by simp)]
  split
  · rw [changeState_roster, changeState_roster, changeState_roster, sendipcp_roster, opened]
  · rw [ipcpOpen_roster, opened]

theorem setupNetwork_roster (s : Nat) : (setupNetwork st s).roster = st.roster := by
  have opened : (lcpOpen (st.setLocal s fun own => { own with lcpAuthtype := 0 }) s).roster =
      st.roster := (lcpOpen_roster (by rw [setLocal_same])).trans rfl
  have throttled {st' : State} (same : st'.roster = st.roster) :
      (if (st'.session s).throttleIn ≠ 0 ∨ (st'.session s).throttleOut ≠ 0 then
        throttleSession st' s (st'.session s).throttleIn (st'.session s).throttleOut
      else st').roster = st.roster := by
    split
    · rw [roster_of_ledger (throttleSession_ledger ..), same]
    · exact same
  simp only [setupNetwork]
  rw [emit_roster, setSession_sameRoster rfl rfl rfl rfl]
  apply throttled
  rw [emit_roster, opened]

/-- A session may be set up if it is live. The bundle that it joins has a slot left, and
a session that is to be in a bundle finds an address and is not killed for it. -/
structure MaySetUp (st : State) (s : Nat) : Prop where
  live : st.roster.Live s
  room : ∀ b, joinsBundle st s = some b → (st.bundle b).numOfLinks < maxBundleSes
  address : ∀ b, b ≠ 0 → bundleFor st s = some b → addressFor st s ≠ 0
  alone : ∀ b, b ≠ 0 → bundleFor st s = some b → st.config.suicideDuplicateIp →
    ∀ i, i ≠ s → i ≠ 0 → i ≤ st.highestSessionid → (st.session i).ip = addressFor st s →
      (st.session i).bundle = b

theorem Roster.Sound.firstAddress (sound : st.roster.Sound) (isOpen : (st.bundle b).isOpen = true) :
    (st.session ((st.bundle b).members 0)).ip ≠ 0 := by
  have listed := sound.listed b isOpen
  have first : st.roster.LinkOf b ((st.bundle b).members 0) := listed.lists.holds listed.some
  refine sound.addressed _ first.1 ?_
  rw [first.2]
  exact sound.open_nonzero isOpen

theorem Roster.Sound.withLink {roster : Roster} {links : Links}
    (sound : roster.Sound) (real : b ≠ 0) (live : roster.Live s) (unlinked : roster.bundle s = 0)
    (address : ip ≠ 0) (isOpen : links.isOpen = true) (some : 1 ≤ links.count)
    (room : links.count ≤ maxBundleSes)
    (lists : Lists links.members links.count fun x => roster.LinkOf b x ∨ x = s) :
    (roster.withLink s b ip links).Sound := by
  have entry : (roster.withLink s b ip links).links b = links := update_self ..
  have apart : Roster.Elsewhere roster (roster.withLink s b ip links) s :=
    ⟨fun _ _ => rfl, fun _ _ => rfl, fun _ other => update_of_ne other ..,
      fun _ other => update_of_ne other ..⟩
  have own : (roster.withLink s b ip links).ip s = ip := update_self ..
  apply sound.join real apart unlinked ⟨live, update_self ..⟩
  · rw [own]
    exact address
  · exact fun _ other => update_of_ne other ..
  · rw [entry]
    exact isOpen
  · rw [entry]
    exact some
  · rw [entry]
    exact room
  · rw [entry]
    exact lists

/-- A live session gets the address that it needs. -/
theorem Roster.Sound.withAddress (sound : st.roster.Sound) (live : st.roster.Live s) :
    { st.roster with ip := update st.roster.ip s (ownAddress st s) }.Sound := by
  by_cases none : (st.session s).ip = 0
  · have unlinked : (st.session s).bundle = 0 := by
      by_contra member
      exact sound.addressed s live member none
    have apart : Roster.Elsewhere st.roster
        { st.roster with ip := update st.roster.ip s (ownAddress st s) } s :=
      ⟨fun _ _ => rfl, fun _ _ => rfl, fun _ _ => rfl,
        fun _ other => update_of_ne other ..⟩
    apply sound.elsewhere apart
    · exact fun _ => rfl
    · exact fun b real link => real (link.2.symm.trans unlinked)
    · exact fun b real link => real (link.2.symm.trans unlinked)
    · exact fun _ dying => absurd live.2 dying
  · have same : update st.roster.ip s (ownAddress st s) = st.roster.ip := by
      rw [ownAddress, if_neg none]
      exact update_eq_self ..
    rw [same]
    exact sound

/-- An open session of a bundle. -/
def Roster.Member (roster : Roster) (s : Nat) : Prop := roster.opened s ≠ 0 ∧ roster.bundle s ≠ 0

/-- What the rest of the server leaves alone: the lists of the bundles, which sessions are
in them, and whether these have an address. -/
structure Aside (st st' : State) : Prop where
  links : ∀ b, st'.roster.links b = st.roster.links b
  sessions : ∀ s, (¬ st.roster.Member s ∧ ¬ st'.roster.Member s) ∨
    st'.roster.opened s = st.roster.opened s ∧ st'.roster.die s = st.roster.die s ∧
      st'.roster.bundle s = st.roster.bundle s ∧
      (st'.roster.ip s = st.roster.ip s ∨ st.roster.die s = 0 ∧ st'.roster.ip s ≠ 0)

/-- An entry that is not in use is opened aside from the bundles. -/
theorem openSession_aside (closed : (st.session s).opened = 0) (t : Nat) :
    Aside st (openSession st s t) := by
  have session := openSession_session st s t
  refine ⟨fun _ => rfl, fun x => ?_⟩
  by_cases here : x = s
  · refine .inl ⟨fun member => member.1 (here ▸ closed), fun member => member.2 ?_⟩
    change ((openSession st s t).session x).bundle = 0
    rw [session, here, update_self]
    rfl
  · right
    have same : (openSession st s t).session x = st.session x ∨
        (openSession st s t).session x = { st.session x with next := (st.session s).next } := by
      rw [session, update_of_ne here, update_apply]
      split
      · rename_i head
        rw [head]
        exact .inr rfl
      · exact .inl rfl
    simp only [State.roster]
    rcases same with same | same <;> rw [same] <;> exact ⟨rfl, rfl, rfl, .inl rfl⟩

theorem Roster.Sound.aside (sound : st.roster.Sound) (aside : Aside st st') :
    st'.roster.Sound := by
  have links : ∀ b s, b ≠ 0 → (st'.roster.LinkOf b s ↔ st.roster.LinkOf b s) := by
    intro b s real
    rcases aside.sessions s with ⟨before, after⟩ | ⟨opened, die, bundle, _⟩
    · exact iff_of_false
        (fun link => after ⟨link.1.1, fun none => real (link.2.symm.trans none)⟩)
        fun link => before ⟨link.1.1, fun none => real (link.2.symm.trans none)⟩
    · rw [Roster.LinkOf, Roster.LinkOf, Roster.Live, Roster.Live, opened, die, bundle]
  refine ⟨?_, fun b isOpen => ?_, fun b real closed s => ?_, fun s live member => ?_,
    fun s opened dying member => ?_⟩
  · rw [aside.links]
    exact sound.root
  · rw [aside.links] at isOpen
    have listed := sound.listed b isOpen
    refine ⟨?_, ?_, ?_⟩
    · rw [aside.links]
      exact listed.some
    · rw [aside.links]
      exact listed.room
    · rw [aside.links]
      exact listed.lists.congr fun s => links b s (sound.open_nonzero isOpen)
  · rw [aside.links] at closed
    rw [links b s real]
    exact sound.free b real closed s
  · rcases aside.sessions s with ⟨_, after⟩ | ⟨same, die, bundle, ip | addressed⟩
    · exact absurd ⟨live.1, member⟩ after
    · rw [ip]
      rw [bundle] at member
      refine sound.addressed s ⟨?_, ?_⟩ member
      · rw [← same]
        exact live.1
      · rw [← die]
        exact live.2
    · exact addressed.2
  · rcases aside.sessions s with ⟨_, after⟩ | ⟨same, die, bundle, ip | addressed⟩
    · exact absurd ⟨opened, member⟩ after
    · rw [ip]
      rw [same] at opened
      rw [die] at dying
      rw [bundle] at member
      exact sound.gone s opened dying member
    · exact absurd (die.trans addressed.1) dying

end L2tpns.Server
