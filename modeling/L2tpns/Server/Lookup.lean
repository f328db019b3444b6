import L2tpns.Server.Exclusive

/-! # Where packets are delivered

An address that the map resolves is delivered to an open session that has it, by its own
address or by a route, in every run whose setups leave the map in order
(`L2tpns.Server.lookup_delivers`). A session that is set up after it was shut down is not
unmapped when it is killed, and its addresses go to whoever gets its number next.
-/

namespace L2tpns.Server

open Foundation

variable {st : State} {s : Nat} {a : InAddr}

/-- The session is open, and the address is its own, on one of its routes, or that of its
bundle. -/
structure Delivers (st : State) (s : Nat) (a : InAddr) : Prop where
  opened : (st.session s).opened ≠ 0
  owned : (st.session s).ip = a ∨ Routed (st.session s).route a ∨
    (st.session s).bundle ≠ 0 ∧ ∃ x, (st.session x).opened ≠ 0 ∧
      (st.session x).bundle = (st.session s).bundle ∧ (st.session x).ip = a

theorem Tenanted.delivers (tenanted : Tenanted st) (real : s ≠ 0) (found : sessionbyip st a = s) :
    Delivers st s a := by
  have cell : st.tenancy.cell a = s ∧ 0 < s ∧ s < maxSession := by
    rw [sessionbyip] at found
    split at found
    · rename_i inUse
      exact ⟨found, found ▸ inUse.1, found ▸ inUse.2.1⟩
    · exact absurd found.symm real
  have tenant := tenanted.tenancy.cells a
  rw [cell.1] at tenant
  have named := tenant.resolve_left fun nobody => nobody.outside cell.2
  refine ⟨named.live.1, ?_⟩
  rcases named.maps.cases with routed | own
  · exact .inr (.inl routed)
  · exact .inl own.symm

theorem Tenanted.setup (tenanted : Tenanted st) (awake : st.Awake) (may : MayMap st s)
    (unlinked : (st.session s).forwardtosession = 0) (t : Nat) :
    Tenanted (Server.sessionsetup st s t) := by
  have spec := sessionsetup_spec tenanted.tenancy.roster may.maySetUp t
  generalize Server.sessionsetup st s t = st' at spec ⊢
  generalize setupReturns st s = returns at spec
  cases spec with
  | refused reason cdnResult cdnError =>
      exact (tenanted.refused awake may.maySetUp.live.1 reason cdnResult cdnError).2
  | granted placed b links facts => exact tenanted.mapped facts awake may unlinked

def KeepsMap (st : State) : BundleAction → Prop
  | .setup s _ => st.Awake ∧ MayMap st s
  | action => KeepsTenants st action

theorem KeepsTenants.keepsMap {action : BundleAction} (keeps : KeepsTenants st action) :
    KeepsMap st action := by
  cases action with
  | setup s t => exact ⟨keeps.1, keeps.2.mayMap⟩
  | _ => exact keeps

theorem tenanted_of_mapped (reached : tenantSystem.ReachableUnder KeepsMap st) : Tenanted st := by
  induction reached with
  | initial start =>
      obtain ⟨config, pool, ipPoolSize, time, timeNow, clock, rfl⟩ := start
      exact State.start_tenanted config pool ipPoolSize time clock
  | step action _ keeps moves tenanted =>
      obtain ⟨rfl, invoked⟩ := moves
      cases action with
      | setup s t => exact tenanted.setup keeps.1 keeps.2 invoked t
      | openSession s t | shutdown | kill | aside next => exact tenanted.perform keeps invoked

/-- **No misdelivery**: an address resolves to an open session that has it. -/
theorem lookup_delivers (reached : tenantSystem.ReachableUnder KeepsMap st) (a : InAddr)
    (real : sessionbyip st a ≠ 0) : Delivers st (sessionbyip st a) a :=
  (tenanted_of_mapped reached).delivers real rfl

theorem lookup_delivers_framed :
    Delivers (sessionsetup (framedState false) 1 1) 1 10 := by
  obtain ⟨unforwarded, awake, may⟩ := framedState_installs
  have reached : tenantSystem.ReachableUnder KeepsMap (framedState false) :=
    framedState_kept.weaken fun _ _ keeps => keeps.keepsMap
  have found : sessionbyip (sessionsetup (framedState false) 1 1) 10 = 1 := by decide
  have served : tenantSystem.ReachableUnder KeepsMap (sessionsetup (framedState false) 1 1) :=
    .step (.setup 1 1) reached ⟨awake, may.mayMap⟩ ⟨rfl, unforwarded⟩
  have delivers := lookup_delivers served 10 (by rw [found]; decide)
  rw [found] at delivers
  exact delivers

/-- A server whose pool has one address, on which a session was shut down. -/
def shutState : State :=
  sessionshutdown (openSession (State.start .zero
    (fun i => if i = 1 then { IpPool.zero with address := 10 } else .zero) 2 0 1) 1 1) 1 "" 0 0 none

/-- The login is accepted after the shutdown, then the session is killed and its number is
given away. -/
def lateState : State :=
  openSession (sessionkill (sessionsetup shutState 1 1) 1 none none) 1 1

theorem shutState_reachable : tenantSystem.Reachable shutState :=
  .step (.shutdown 1 "" 0 0 none) (.step (.openSession 1 1)
    (.initial ⟨_, _, _, _, _, Nat.one_ne_zero, rfl⟩) trivial ⟨rfl, rfl⟩) trivial ⟨rfl, nofun⟩

theorem lateState_reachable : tenantSystem.Reachable lateState := by
  have unforwarded : (shutState.session 1).forwardtosession = 0 := by decide
  have free : 1 = (sessionkill (sessionsetup shutState 1 1) 1 none none).sessionfree := by
    decide
  exact .step (.openSession 1 1) (.step (.kill 1 none none) (.step (.setup 1 1)
    shutState_reachable trivial ⟨rfl, unforwarded⟩) trivial ⟨rfl, nofun⟩) trivial ⟨rfl, free⟩

/-- The address of a session that logged in late goes to the next one with its number. -/
theorem lookup_misdelivers :
    ¬ ∀ st, tenantSystem.Reachable st → ∀ a, sessionbyip st a ≠ 0 →
      Delivers st (sessionbyip st a) a := by
  intro delivers
  have found : sessionbyip lateState 10 = 1 := by decide
  have own : (lateState.session 1).ip = 0 ∧ (lateState.session 1).route = [] ∧
      (lateState.session 1).bundle = 0 := by decide
  have delivered := (delivers lateState lateState_reachable 10 (by rw [found]; decide)).owned
  rw [found, own.1, own.2.1, own.2.2] at delivered
  rcases delivered with same | ⟨route, member, _⟩ | linked
  · cases same
  · cases member
  · exact linked.1 rfl

end L2tpns.Server
