import L2tpns.Server.Placing

/-! # Runs of a server with bundles

A setup shuts the session down or goes on with a session that is placed, and the rest of it
only zaps other sessions. In every run in which no bundle overflows and every link that is
set up or closed has an address to give back, open bundles list exactly their live links
(`L2tpns.Server.bundles_listed`).
-/

namespace L2tpns.Server

open Foundation Function

variable {st st' : State} {s : Nat} {termCause : Option TermCause} {ip : InAddr}

/-- A setup adds the session to the list of its bundle. -/
theorem Roster.Sound.sessionsetup (sound : st.roster.Sound) (awake : st.Awake)
    (may : MaySetUp st s) (t : Nat) : (sessionsetup st s t).roster.Sound := by
  have spec := sessionsetup_spec sound may t
  generalize Server.sessionsetup st s t = st', setupReturns st s = goesOn at spec ⊢
  cases spec with
  | refused reason cdnResult cdnError =>
      have mayLeave : MayLeave st s (some .serviceUnavailable) := fun _ _ => by decide
      exact (sound.sessionshutdown awake mayLeave ..).1
  | granted placed b links facts =>
      have zapping : Zapping placed s (addressFor st s) placed.highestSessionid := by
        refine ⟨facts.sound, ?_, fun suicide _ member i other some within same => ?_⟩
        · rw [State.Awake, facts.time]
          exact awake
        · have own : (placed.session s).bundle = b := facts.bundle
          rw [facts.config] at suicide
          rw [facts.highest] at within
          rw [facts.others i other] at same ⊢
          rw [own] at member ⊢
          exact may.alone b member facts.known suicide i other some within same
      rw [setupNetwork_roster, setupRoutes_roster, ← facts.highest]
      exact (zapping.zapSessions facts.address _ 1 placed Nat.one_ne_zero
        (Nat.add_comm 1 _).le).sound

/-- What opens, sets up and closes sessions, and what the rest of the server does. -/
inductive BundleAction where
  | openSession (s t : Nat)
  | setup (s t : Nat)
  | shutdown (s : Nat) (reason : String) (cdnResult cdnError : Nat)
      (termCause : Option TermCause)
  | kill (s : Nat) (reason : Option String) (termCause : Option TermCause)
  | aside (next : State)

/-- The tables after an action. -/
def BundleAction.perform (st : State) : BundleAction → State
  | .openSession s t => Server.openSession st s t
  | .setup s t => sessionsetup st s t
  | .shutdown s reason cdnResult cdnError termCause =>
      sessionshutdown st s reason cdnResult cdnError termCause
  | .kill s reason termCause => sessionkill st s reason termCause
  | .aside next => next

/-- Entries that are opened were not in use. -/
def BundleAction.Called (st : State) : BundleAction → Prop
  | .openSession s _ => (st.session s).opened = 0
  | .aside next => Aside st next
  | _ => True

/-- A master from its start on. -/
def bundleSystem : TransitionSystem State BundleAction where
  initial st := ∃ config pool ipPoolSize time timeNow,
    st = State.start config pool ipPoolSize time timeNow
  step st action next := next = action.perform st ∧ action.Called st

def KeepsLinks (st : State) : BundleAction → Prop
  | .setup s _ => st.Awake ∧ MaySetUp st s
  | .shutdown s _ _ _ termCause => st.Awake ∧ MayLeave st s termCause
  | .kill s _ termCause => st.Awake ∧ MayLeave st s termCause
  | _ => True

/-- An open bundle has one link at least and twelve at most, all different and open, and
among them are all its live ones, of which there is one. A bundle that is not open has no
live link. -/
structure BundlesListed (st : State) : Prop where
  count : ∀ b, (st.bundle b).isOpen = true →
    1 ≤ (st.bundle b).numOfLinks ∧ (st.bundle b).numOfLinks ≤ maxBundleSes
  distinct : ∀ b, (st.bundle b).isOpen = true → ∀ i j, i < (st.bundle b).numOfLinks →
    j < (st.bundle b).numOfLinks → (st.bundle b).members i = (st.bundle b).members j → i = j
  members : ∀ b, (st.bundle b).isOpen = true → ∀ i, i < (st.bundle b).numOfLinks →
    (st.session ((st.bundle b).members i)).opened ≠ 0 ∧
      (st.session ((st.bundle b).members i)).bundle = b
  listed : ∀ b, (st.bundle b).isOpen = true → ∀ s, (st.session s).opened ≠ 0 →
    (st.session s).die = 0 → (st.session s).bundle = b →
      ∃ i, i < (st.bundle b).numOfLinks ∧ (st.bundle b).members i = s
  live : ∀ b, (st.bundle b).isOpen = true →
    ∃ s, (st.session s).opened ≠ 0 ∧ (st.session s).die = 0 ∧ (st.session s).bundle = b
  free : ∀ b, b ≠ 0 → (st.bundle b).isOpen = false → ∀ s, (st.session s).opened ≠ 0 →
    (st.session s).die = 0 → (st.session s).bundle ≠ b

theorem Roster.Sound.bundlesListed (sound : st.roster.Sound) : BundlesListed st := by
  refine ⟨fun b isOpen => ?_, fun b isOpen => ?_, fun b isOpen i below => ?_,
    fun b isOpen s opened alive member => ?_, fun b isOpen => ?_,
    fun b real closed s opened alive member => ?_⟩
  · have listed := sound.listed b isOpen
    exact ⟨listed.some, listed.room⟩
  · exact (sound.listed b isOpen).lists.distinct
  · have link : st.roster.LinkOf b ((st.bundle b).members i) :=
      (sound.listed b isOpen).lists.holds below
    exact ⟨link.1.1, link.2⟩
  · exact ((sound.listed b isOpen).lists.complete s).mp ⟨⟨opened, alive⟩, member⟩
  · have listed := sound.listed b isOpen
    have link : st.roster.LinkOf b ((st.bundle b).members 0) := listed.lists.holds listed.some
    exact ⟨_, link.1.1, link.1.2, link.2⟩
  · exact sound.free b real closed s ⟨⟨opened, alive⟩, member⟩

theorem State.start_sound (config : Config) (pool : Nat → IpPool) (ipPoolSize time timeNow : Nat) :
    (State.start config pool ipPoolSize time timeNow).roster.Sound := by
  have closed (s : Nat) :
      ((State.start config pool ipPoolSize time timeNow).session s).opened = 0 := by
    simp only [State.start]
    split <;> rfl
  refine ⟨rfl, fun _ isOpen => ?_, fun _ _ _ s link => link.1.1 (closed s),
    fun s live => absurd (closed s) live.1, fun s opened => absurd (closed s) opened⟩
  cases isOpen

theorem Roster.Sound.perform (sound : st.roster.Sound) {action : BundleAction}
    (keeps : KeepsLinks st action) (called : action.Called st) :
    (action.perform st).roster.Sound := by
  cases action with
  | openSession s t => exact sound.aside (openSession_aside called t)
  | setup s t => exact sound.sessionsetup keeps.1 keeps.2 t
  | shutdown s reason cdnResult cdnError termCause =>
      exact (sound.sessionshutdown keeps.1 keeps.2 reason cdnResult cdnError).1
  | kill s reason termCause => exact sound.sessionkill keeps.1 keeps.2 reason
  | aside next => exact sound.aside called

/-- **Links of a bundle.** In every run in which no bundle overflows and every link that is
set up or closed has an address to give back, open bundles list exactly their live links. -/
theorem bundles_listed {st : State} (reached : bundleSystem.ReachableUnder KeepsLinks st) :
    BundlesListed st := by
  apply Roster.Sound.bundlesListed
  induction reached with
  | initial start =>
      obtain ⟨config, pool, ipPoolSize, time, timeNow, rfl⟩ := start
      exact State.start_sound config pool ipPoolSize time timeNow
  | step action _ keeps moves sound =>
      obtain ⟨rfl, called⟩ := moves
      exact sound.perform keeps called

/-- A server that starts, without addresses to give. -/
def bundleStart : State := State.start .zero (fun _ => .zero) 0 0 1

/-- A server on which session 1 is open and has accepted multilink. -/
def linkStart (ip : InAddr) : State :=
  { bundleStart with
    session := fun s => if s = 1 then { Session.zero with opened := 1, mrru := 1, ip := ip }
      else .zero }

theorem linkStart_reachable {guard : State → BundleAction → Prop}
    (meets : ∀ st, guard st (.aside (linkStart ip))) :
    bundleSystem.ReachableUnder guard (linkStart ip) := by
  have start : bundleSystem.ReachableUnder guard bundleStart := .initial ⟨_, _, _, _, _, rfl⟩
  refine .step (.aside (linkStart ip)) start (meets _) ⟨rfl, ?_⟩
  refine ⟨fun _ => rfl, fun s => .inl ⟨fun member => member.1 ?_, fun member => member.2 ?_⟩⟩
  · simp only [State.roster, bundleStart, State.start]
    split <;> rfl
  · simp only [State.roster, linkStart]
    split <;> rfl

theorem linkStart_bundles (ip : InAddr) :
    WantsBundle (linkStart ip) 1 ∧ findBundle (linkStart ip) 1 = none ∧
      freeBundle (linkStart ip) = some 1 := by
  refine ⟨⟨Nat.one_pos, rfl⟩, ?_, ?_⟩
  · rw [findBundle, List.find?_eq_none]
    exact fun _ _ matched => nomatch matched
  · rw [freeBundle, show maxBundle - 1 = 59998 + 1 from rfl, List.range'_succ]
    rfl

theorem setup_reachable {guard : State → BundleAction → Prop} {s t : Nat}
    (reached : bundleSystem.ReachableUnder guard st) (meets : guard st (.setup s t)) :
    bundleSystem.ReachableUnder guard (sessionsetup st s t) :=
  .step (.setup s t) reached meets ⟨rfl, trivial⟩

theorem kill_reachable {guard : State → BundleAction → Prop} {reason : Option String}
    (reached : bundleSystem.ReachableUnder guard st) (meets : guard st (.kill s reason termCause)) :
    bundleSystem.ReachableUnder guard (sessionkill st s reason termCause) :=
  .step (.kill s reason termCause) reached meets ⟨rfl, trivial⟩

/-- The first link of a bundle is set up. -/
theorem bundles_listed_setup : BundlesListed (sessionsetup (linkStart 10) 1 1) := by
  obtain ⟨wants, none, free⟩ := linkStart_bundles 10
  have alone : joinsBundle (linkStart 10) 1 = Option.none := by
    rw [joinsBundle, if_pos wants, none, Option.filter_none]
  have own : addressFor (linkStart 10) 1 = 10 := by
    rw [addressFor, alone]
    rfl
  have awake : (linkStart 10).Awake := by
    rw [State.Awake, show (linkStart 10).time = 0 from rfl]
    decide
  refine bundles_listed (setup_reachable (linkStart_reachable fun _ => trivial) ⟨awake, ?_⟩)
  refine ⟨⟨Nat.one_ne_zero, rfl⟩, fun b joins => ?_, fun b _ _ => ?_, fun b _ _ suicide => ?_⟩
  · rw [alone] at joins
    cases joins
  · rw [own]
    decide
  · cases suicide

theorem sessionsetup_unaddressed :
    (sessionsetup (linkStart 0) 1 1).roster = { (linkStart 0).roster.withLink 1 1 0
        ⟨true, 1, update (fun _ => 0) 0 1⟩ with
      die := update (linkStart 0).roster.die 1 150 } ∧
      ((sessionsetup (linkStart 0) 1 1).session 1).standing =
        { ((linkStart 0).session 1).standing with die := 150 } := by
  obtain ⟨wants, none, free⟩ := linkStart_bundles 0
  obtain ⟨joins, books, address, roster⟩ := joinBundle_opens none free
  have granted := setupBundle_granted wants Nat.one_ne_zero joins
  obtain ⟨st, linked⟩ : ∃ st, (joinBundle (linkStart 0) 1).1.emit
      (.clusterBundle ((joinBundle (linkStart 0) 1).1.session 1).bundle) = st := ⟨_, rfl⟩
  rw [linked] at granted
  have unaddressed : ownAddress st 1 = 0 := by
    rw [← linked]
    exact (emit_ownAddress ..).trans (address.trans rfl)
  have refused := setupAddress_unaddressed unaddressed
  have books' : st.books = (linkStart 0).books := by
    rw [← linked, State.emit_books _ rfl, books]
  have roster' : st.roster = (linkStart 0).roster.withLink 1 1 0
      ⟨true, 1, update (fun _ => 0) 0 1⟩ := by
    rw [← linked, State.emit_roster, roster]
    rfl
  have result : sessionsetup (linkStart 0) 1 1 = sessionshutdown st 1
      "No IP addresses available." 2 7 (some .serviceUnavailable) := by
    simp only [sessionsetup]
    rw [granted]
    dsimp only
    rw [if_pos rfl, refused, if_neg (by simp)]
  have standing : (st.session 1).standing = ((linkStart 0).session 1).standing :=
    congrArg (fun books : Books => books.standing 1) books'
  have opened : (st.session 1).opened ≠ 0 := by
    rw [show (st.session 1).opened = 1 from congrArg Standing.opened standing]
    exact Nat.one_ne_zero
  have ip : (st.session 1).ip = 0 :=
    congrFun (congrArg Roster.ip roster') 1
  have die : dieAfter st 1 = 150 := by
    rw [dieAfter, show (st.session 1).die = 0 from congrArg Standing.die standing,
      show st.time = 0 from congrArg Books.time books']
    rfl
  rw [result]
  refine ⟨?_, ?_⟩
  · rw [sessionshutdown_roster opened, if_neg fun both => both.1 ip, die, roster']
    rfl
  · rw [sessionshutdown_standing _ _ _ _ opened, standing, die]

theorem sessionkill_dying (opened : (st.session s).opened ≠ 0) (die : (st.session s).die ≠ 0)
    (next : (st.session s).next = 0) (forwards : (st.session s).forwardtosession = 0)
    (reason : Option String) (termCause : Option TermCause) :
    (sessionkill st s reason termCause).roster.opened s = 0 ∧
      (sessionkill st s reason termCause).roster.links = st.roster.links := by
  have estate := @releaseSlot_estate st s
  have session : (releaseSlot st s).session = st.session := congrArg Estate.session estate
  have shut : shutForKill st s reason termCause = st := by
    rw [shutForKill, if_neg die]
  have linked : shutLinked (releaseSlot st s) s reason = releaseSlot st s := by
    simp only [shutLinked]
    rw [session]
    exact if_neg fun both => both.1 forwards
  simp only [sessionkill]
  rw [if_neg opened, if_neg (not_not.mpr next), shut, linked, State.emit_roster,
    sessionclear_roster, roster_of_estate estate]
  exact ⟨update_self .., rfl⟩

/-- A bundle whose only link found no address still lists it after it was killed. -/
theorem unaddressed_listed
    (roster : st.roster = { (linkStart 0).roster.withLink 1 1 0
        ⟨true, 1, update (fun _ => 0) 0 1⟩ with
      die := update (linkStart 0).roster.die 1 150 })
    (standing : (st.session 1).standing = { ((linkStart 0).session 1).standing with die := 150 }) :
    ¬ BundlesListed (sessionkill st 1 none (some .adminReset)) := by
  intro listed
  have opened : (st.session 1).opened = 1 := congrArg Standing.opened standing
  have die : (st.session 1).die = 150 := congrArg Standing.die standing
  obtain ⟨closed, links⟩ := sessionkill_dying (by rw [opened]; exact Nat.one_ne_zero)
    (by rw [die]; decide) (congrArg Standing.next standing)
    (congrArg Standing.forwardtosession standing) none (some .adminReset)
  have bundle : (sessionkill st 1 none (some .adminReset)).roster.links 1 =
      ⟨true, 1, update (fun _ => 0) 0 1⟩ := by
    rw [links, roster]
    rfl
  generalize sessionkill st 1 none (some .adminReset) = killed at closed bundle listed
  have isOpen : (killed.bundle 1).isOpen = true := congrArg Links.isOpen bundle
  have first : (killed.bundle 1).members 0 = 1 := congrFun (congrArg Links.members bundle) 0
  have member := (listed.members 1 isOpen 0 (listed.count 1 isOpen).1).1
  rw [first] at member
  exact member closed

/-- The first link of a bundle finds no address, is shut down, and is killed. -/
theorem bundles_misnamed : ¬ ∀ st, bundleSystem.Reachable st → BundlesListed st := by
  intro sound
  have reached : bundleSystem.Reachable (sessionsetup (linkStart 0) 1 1) :=
    setup_reachable (linkStart_reachable fun _ => trivial) trivial
  exact unaddressed_listed sessionsetup_unaddressed.1 sessionsetup_unaddressed.2
    (sound _ (kill_reachable reached trivial))

end L2tpns.Server
