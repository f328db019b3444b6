import L2tpns.Cluster.Heartbeat
import L2tpns.Foundation.Sweep
import L2tpns.Server.Filters

/-! # A slave that is filled in by its master

A slave starts with tables it knows nothing about, and counts the entries it has
not heard of yet. An entry is defined when the master sends it, or when it is
above the highest entry in use that a heartbeat announces. The counters are
right in every state, so that a slave that says it is up to date is
(`L2tpns.Server.uptodate_honest`).

Of a bundle, only the state is kept: the rest is copied and not read here.
-/

namespace L2tpns.Server

open Foundation Function

inductive BundleState where
  | free
  | opened
  | undef
deriving DecidableEq, Repr

/-- An element of a heartbeat, unpacked. -/
inductive Element where
  | session (id : Nat) (new : Session)
  | bundle (id : Nat) (state : BundleState)
  | tunnel (id : Nat) (new : Tunnel)

/-- A slave. The headers of the heartbeats it has processed and the elements it
has received are history. -/
structure Slave where
  tables : State
  bundleState : Nat → BundleState
  iamUptodate : Bool
  undefinedSessions : Int
  undefinedBundles : Int
  undefinedTunnels : Int
  advertised : Bool
  announced : List Cluster.Heart
  received : List Element

/-- A process that has just started: nothing is defined. -/
def Slave.start (tables : State) : Slave where
  tables
  bundleState := fun b => if b = 0 then .free else .undef
  iamUptodate := false
  undefinedSessions := maxSession - 1
  undefinedBundles := maxBundle - 1
  undefinedTunnels := maxTunnel - 1
  advertised := false
  announced := []
  received := []

def BundleState.isUndefined (state : BundleState) : Bool := state = .undef

def Tunnel.isUndefined (tunnel : Tunnel) : Bool := tunnel.state = .undef

def Session.isUndefined (session : Session) : Bool := session.tunnel = tUndef

/-- The tables that a slave has filled in. -/
inductive Table where
  | session
  | bundle
  | tunnel
deriving DecidableEq, Repr

def Table.size : Table → Nat
  | .session => maxSession
  | .bundle => maxBundle
  | .tunnel => maxTunnel

/-- Whether an entry is still marked as undefined. -/
def Slave.unfilled (slave : Slave) : Table → Nat → Bool
  | .session, i => (slave.tables.session i).isUndefined
  | .bundle, i => (slave.bundleState i).isUndefined
  | .tunnel, i => (slave.tables.tunnel i).isUndefined

def Slave.undefined (slave : Slave) : Table → Int
  | .session => slave.undefinedSessions
  | .bundle => slave.undefinedBundles
  | .tunnel => slave.undefinedTunnels

/-- An entry that is about to be filled in is one undefined entry fewer. -/
def Slave.countDown (slave : Slave) (table : Table) (more : Nat) : Slave :=
  if slave.unfilled table more = true ∧ slave.iamUptodate = false then
    match table with
    | .session => { slave with undefinedSessions := slave.undefinedSessions - 1 }
    | .bundle => { slave with undefinedBundles := slave.undefinedBundles - 1 }
    | .tunnel => { slave with undefinedTunnels := slave.undefinedTunnels - 1 }
  else slave

/-- Advertise routes once everything is defined. -/
def clusterUptodate (slave : Slave) : Slave :=
  if slave.iamUptodate then slave
  else if slave.undefinedSessions ≠ 0 ∨ slave.undefinedTunnels ≠ 0 ∨ slave.undefinedBundles ≠ 0 then
    slave
  else { slave with iamUptodate := true, advertised := true }

/-- Settle what is above the highest entries in use and count the rest, each table
up to its last entry. -/
def sweepTables (slave : Slave) (last : Table → Nat) (highsession highbundle hightunnel : Int) :
    Slave :=
  let sessions :=
    sweep Session.isUndefined (fun session => { session with tunnel := 0 }) highsession
      slave.tables.session (last .session)
  let bundles := sweep BundleState.isUndefined (fun _ => .free) highbundle slave.bundleState
    (last .bundle)
  let tunnels := sweep Tunnel.isUndefined (fun tunnel => { tunnel with state := .free }) hightunnel
    slave.tables.tunnel (last .tunnel)
  { slave with
    tables := { slave.tables with session := sessions.1, tunnel := tunnels.1 }
    bundleState := bundles.1
    undefinedSessions := sessions.2
    undefinedBundles := bundles.2
    undefinedTunnels := tunnels.2 }

/-- Check the tables against what the master announces. -/
def clusterCheckSessions (slave : Slave) (highsession freesessionPtr highbundle hightunnel : Int) :
    Slave :=
  -- `sessionfree` has 16 bits
  let freed := { slave with
    tables := slave.tables.setSession 0 fun session =>
      { session with next := (freesessionPtr % 2 ^ 16).toNat } }
  if freed.iamUptodate then freed
  else if highsession > freed.undefinedSessions ∧ highbundle > freed.undefinedBundles ∧
      hightunnel > freed.undefinedTunnels then freed
  else
    clusterUptodate (sweepTables freed (fun table => table.size - 1) highsession highbundle
      hightunnel)

def clusterRecvSession (slave : Slave) (more : Nat) (new : Session) : Slave :=
  if maxSession ≤ more then slave
  else
    clusterUptodate { slave.countDown .session more with
      tables := (loadSession slave.tables more new).1 }

def clusterRecvBundle (slave : Slave) (more : Nat) (state : BundleState) : Slave :=
  if maxBundle ≤ more then slave
  else
    clusterUptodate { slave.countDown .bundle more with
      bundleState := Function.update slave.bundleState more state }

/-- The control messages of the tunnel are cleared; they are not part of it here. -/
def clusterRecvTunnel (slave : Slave) (more : Nat) (new : Tunnel) : Slave :=
  if maxTunnel ≤ more then slave
  else
    clusterUptodate { slave.countDown .tunnel more with
      tables := slave.tables.setTunnel more fun _ => new }

/-- Load one element of a heartbeat. -/
def recvElement (slave : Slave) (element : Element) : Slave :=
  let noted := { slave with received := slave.received ++ [element] }
  match element with
  | .session id new => clusterRecvSession noted id new
  | .bundle id state => clusterRecvBundle noted id state
  | .tunnel id new => clusterRecvTunnel noted id new

/-- Check the tables, then load the elements up to the end of the packet, or to
where it is cut short. -/
def recvHeartbeat (slave : Slave) (head : Cluster.Heart) (elements : List Element) : Slave :=
  let noted := { slave with announced := slave.announced ++ [head] }
  elements.foldl recvElement (clusterCheckSessions noted (Cluster.int32 head.highsession)
    (Cluster.int32 head.freesession) (Cluster.int32 head.highbundle)
    (Cluster.int32 head.hightunnel))

/-- The highest entry in use that a heartbeat announces. -/
def high (head : Cluster.Heart) : Table → Int
  | .session => Cluster.int32 head.highsession
  | .bundle => Cluster.int32 head.highbundle
  | .tunnel => Cluster.int32 head.hightunnel

def Element.table : Element → Table
  | .session _ _ => .session
  | .bundle _ _ => .bundle
  | .tunnel _ _ => .tunnel

def Element.id : Element → Nat
  | .session id _ | .bundle id _ | .tunnel id _ => id

/-- What a well-formed master sends: ids in range, tunnel ids and pool indexes in
range, and nothing that it has itself not defined. -/
def Element.WellFormed : Element → Prop
  | .session id new => id < maxSession ∧ new.tunnel < maxTunnel ∧ new.ipPoolIndex < maxIpPool
  | .bundle id state => id < maxBundle ∧ state ≠ .undef
  | .tunnel id new => id < maxTunnel ∧ new.state ≠ .undef

inductive SlaveAction where
  | heartbeat (head : Cluster.Heart) (elements : List Element)
  | works (tables : State)

/-- Whatever else a slave does leaves the tunnels of its sessions and the states
of its tunnels alone. -/
def Slave.enabled (slave : Slave) : SlaveAction → Prop
  | .heartbeat _ elements => ∀ element ∈ elements, element.WellFormed
  | .works tables =>
      (∀ s, (tables.session s).tunnel = (slave.tables.session s).tunnel) ∧
        ∀ t, (tables.tunnel t).state = (slave.tables.tunnel t).state

def Slave.act (slave : Slave) : SlaveAction → Slave
  | .heartbeat head elements => recvHeartbeat slave head elements
  | .works tables => { slave with tables }

def slaveSystem : TransitionSystem Slave SlaveAction where
  initial slave := ∃ config pool ipPoolSize time timeNow,
    slave = .start (.start config pool ipPoolSize time timeNow)
  step slave action next := slave.enabled action ∧ next = slave.act action

section

variable (st : State)

variable (s : Nat) (add : Bool) (new : Session)

theorem routeset_tunnel (ip : InAddr) (prefixlen : Nat) (add : Bool) :
    (routeset st s ip prefixlen add).tunnel = st.tunnel :=
  congrArg Books.tunnel (routeset_books ..)

theorem routesetAll_tunnel (routes : List Route) :
    (routesetAll st s add routes).tunnel = st.tunnel :=
  congrArg Books.tunnel (routesetAll_books ..)

theorem route6set_tunnel (ip prefixlen : Nat) (add : Bool) :
    (route6set st s ip prefixlen add).tunnel = st.tunnel :=
  congrArg (fun ledger => ledger.books.tunnel) (route6set_ledger ..)

theorem route6setAll_tunnel (routes : List Route6) :
    (routes.foldl (fun st route => route6set st s route.ipv6route route.ipv6prefixlen add)
      st).tunnel = st.tunnel :=
  congrArg (fun ledger => ledger.books.tunnel) (route6setAll_ledger ..)

theorem removeOld_tunnel : (removeOld st s).tunnel = st.tunnel := by
  simp only [removeOld]
  split_ifs <;> simp only [route6set_tunnel, route6setAll_tunnel, routeset_tunnel,
    routesetAll_tunnel, State.cacheIp]

theorem addNew_tunnel : (addNew st s new).tunnel = st.tunnel := by
  simp only [addNew]
  split_ifs <;> simp only [routeset_tunnel, routesetAll_tunnel, State.cacheIp]

theorem addNew6_tunnel : (addNew6 st s new).tunnel = st.tunnel := by
  simp only [addNew6]
  split_ifs <;> simp only [route6set_tunnel, route6setAll_tunnel]

theorem swapFilter_tunnel (old new : Nat) : (swapFilter st old new).tunnel = st.tunnel := by
  simp only [swapFilter, useFilter, unuseFilter]
  split_ifs <;> rfl

theorem fixAddressPool_tunnel : (fixAddressPool st s).tunnel = st.tunnel := by
  simp only [fixAddressPool]
  split_ifs <;> rfl

theorem loadSession_tunnel : (loadSession st s new).1.tunnel = st.tunnel := by
  simp only [loadSession]
  split
  · rfl
  · have routed : (addNew6 (if addressChanges (st.session s) new then
        addNew (removeOld st s) s new else st) s new).tunnel = st.tunnel := by
      rw [addNew6_tunnel]
      split
      · rw [addNew_tunnel, removeOld_tunnel]
      · rfl
    generalize addNew6 _ s new = after at routed ⊢
    split_ifs <;> simp only [fixAddressPool_tunnel, State.setSession, swapFilter_tunnel, routed]

end

/-- Each counter is the number of undefined entries, and every other entry was
received or was once above the highest one in use. -/
structure Filled (slave : Slave) : Prop where
  zero : ∀ table, slave.unfilled table 0 = false
  counted : ∀ table, slave.undefined table = openCount id (slave.unfilled table) table.size
  uptodate : slave.iamUptodate = true → ∀ table, slave.undefined table = 0
  known : ∀ table i, 0 < i → i < table.size → slave.unfilled table i = false →
    (∃ element ∈ slave.received, element.table = table ∧ element.id = i) ∨
      ∃ head ∈ slave.announced, high head table < i

variable {slave next : Slave}

theorem Table.size_pos (table : Table) : 0 < table.size := by
  cases table <;> decide

theorem start_filled (config : Config) (pool : Nat → IpPool) (ipPoolSize time timeNow : Nat) :
    Filled (.start (.start config pool ipPoolSize time timeNow)) := by
  have unfilled : ∀ table i,
      (Slave.start (.start config pool ipPoolSize time timeNow)).unfilled table i =
        decide (0 < i) := by
    intro table i
    rcases i with _ | i
    · cases table <;> rfl
    · cases table <;> rfl
  have count : ∀ n, openCount id (fun i => decide (0 < i)) (n + 1) = n := by
    intro n
    induction n with
    | zero => rfl
    | succ n ih => rw [openCount_succ, ih]; simp
  refine ⟨fun table => unfilled table 0, ?_, nofun, ?_⟩
  · intro table
    have same : openCount id ((Slave.start (.start config pool ipPoolSize time timeNow)).unfilled
        table) table.size = table.size - 1 := by
      rw [funext (unfilled table)]
      have positive := table.size_pos
      obtain ⟨n, size⟩ : ∃ n, table.size = n + 1 := ⟨table.size - 1, by omega⟩
      rw [size, count, Nat.add_sub_cancel]
    rw [same]
    cases table <;> rfl
  · intro table i positive _ defined
    rw [unfilled] at defined
    exact absurd positive (of_decide_eq_false defined)

theorem Filled.congr (filled : Filled slave) (unfilled : ∀ table i, next.unfilled table i =
      slave.unfilled table i) (counters : ∀ table, next.undefined table = slave.undefined table)
    (same : next.iamUptodate = true → slave.iamUptodate = true)
    (received : next.received = slave.received)
    (announced : ∀ head ∈ slave.announced, head ∈ next.announced) : Filled next where
  zero table := (unfilled table 0).trans (filled.zero table)
  counted table := by
    rw [counters, filled.counted, funext (unfilled table)]
  uptodate reached table := (counters table).trans (filled.uptodate (same reached) table)
  known table i positive below defined := by
    rw [unfilled] at defined
    rcases filled.known table i positive below defined with got | ⟨head, member, above⟩
    · rw [received]
      exact .inl got
    · exact .inr ⟨head, announced head member, above⟩

theorem Filled.clusterUptodate (filled : Filled slave) : Filled (clusterUptodate slave) := by
  unfold Server.clusterUptodate
  split
  · exact filled
  split
  · exact filled
  · rename_i zero
    simp only [not_or, not_not] at zero
    have counters : ∀ table, slave.undefined table = 0 := by
      intro table
      cases table with
      | session => exact zero.1
      | bundle => exact zero.2.2
      | tunnel => exact zero.2.1
    exact ⟨filled.zero, filled.counted, fun _ => counters, filled.known⟩

theorem clusterUptodate_settled (zero : ∀ table, slave.undefined table = 0) :
    (Server.clusterUptodate slave).iamUptodate = true := by
  unfold Server.clusterUptodate
  split
  · assumption
  · rw [if_neg]
    rintro (sessions | tunnels | bundles)
    · exact sessions (zero .session)
    · exact tunnels (zero .tunnel)
    · exact bundles (zero .bundle)

/-- An element defines its entry, and counts it if it was undefined. -/
structure Defines (slave next : Slave) (element : Element) : Prop where
  unfilled : ∀ table i, next.unfilled table i =
    if table = element.table ∧ i = element.id then false else slave.unfilled table i
  undefined : ∀ table, next.undefined table =
    if table = element.table ∧ slave.unfilled table element.id = true ∧
        slave.iamUptodate = false then
      slave.undefined table - 1
    else slave.undefined table
  uptodate : next.iamUptodate = slave.iamUptodate
  received : next.received = slave.received ++ [element]
  announced : next.announced = slave.announced

theorem Filled.defines (filled : Filled slave) {element : Element}
    (below : element.id < element.table.size) (defines : Defines slave next element) :
    Filled next := by
  have updated : next.unfilled element.table =
      update (slave.unfilled element.table) element.id false := by
    funext i
    rw [defines.unfilled]
    by_cases here : i = element.id
    · rw [if_pos ⟨rfl, here⟩, here, update_self]
    · rw [if_neg fun both => here both.2, update_of_ne here]
  have elsewhere : ∀ table, table ≠ element.table → next.unfilled table = slave.unfilled table := by
    intro table other
    funext i
    rw [defines.unfilled, if_neg fun both => other both.1]
  constructor
  · intro table
    rw [defines.unfilled]
    split
    · rfl
    · exact filled.zero table
  · intro table
    rw [defines.undefined]
    by_cases this : table = element.table
    · subst this
      rw [updated]
      by_cases open_ : slave.unfilled element.table element.id = true
      · have late : slave.iamUptodate = false := by
          by_contra done
          have zero := filled.uptodate ((Bool.not_eq_false _).mp done) element.table
          rw [filled.counted, Int.natCast_eq_zero] at zero
          have settled := settled_of_openCount_eq_zero zero below
          exact absurd open_ (by rw [id_eq] at settled; rw [settled]; exact nofun)
        have counts : openCount id (update (slave.unfilled element.table) element.id false)
            element.table.size + 1 = openCount id (slave.unfilled element.table)
              element.table.size := openCount_settle below open_ rfl
        rw [if_pos ⟨rfl, open_, late⟩, filled.counted]
        omega
      · rw [if_neg fun all => open_ all.2.1, filled.counted]
        rw [Function.update_eq_self_iff.mpr ((Bool.not_eq_true _).mp open_).symm]
    · rw [if_neg fun all => this all.1, filled.counted, elsewhere table this]
  · intro reached table
    rw [defines.uptodate] at reached
    rw [defines.undefined, if_neg fun all => by rw [reached] at all; exact nomatch all.2.2]
    exact filled.uptodate reached table
  · intro table i positive within defined
    rw [defines.received, defines.announced]
    by_cases this : table = element.table ∧ i = element.id
    · exact .inl ⟨element, List.mem_append_right _ List.mem_cons_self, this.1.symm, this.2.symm⟩
    · rw [defines.unfilled, if_neg this] at defined
      rcases filled.known table i positive within defined with ⟨old, member, same⟩ | above
      · exact .inl ⟨old, List.mem_append_left _ member, same⟩
      · exact .inr above

theorem countDown_undefined (slave : Slave) (table other : Table) (more : Nat) :
    (slave.countDown table more).undefined other =
      if other = table ∧ slave.unfilled other more = true ∧ slave.iamUptodate = false then
        slave.undefined other - 1
      else slave.undefined other := by
  unfold Slave.countDown
  by_cases counts : slave.unfilled table more = true ∧ slave.iamUptodate = false
  · rw [if_pos counts]
    by_cases this : other = table
    · subst this
      rw [if_pos ⟨rfl, counts⟩]
      cases other <;> rfl
    · rw [if_neg fun all => this all.1]
      cases table <;> cases other <;> first | rfl | exact absurd rfl this
  · rw [if_neg counts, if_neg]
    rintro ⟨rfl, all⟩
    exact counts all

theorem countDown_frame (slave : Slave) (table : Table) (more : Nat) :
    (slave.countDown table more).bundleState = slave.bundleState ∧
      (slave.countDown table more).tables = slave.tables ∧
        (slave.countDown table more).iamUptodate = slave.iamUptodate ∧
          (slave.countDown table more).received = slave.received ∧
            (slave.countDown table more).announced = slave.announced := by
  unfold Slave.countDown
  split
  · cases table <;> exact ⟨rfl, rfl, rfl, rfl, rfl⟩
  · exact ⟨rfl, rfl, rfl, rfl, rfl⟩

/-- The slave that notes an element and counts it. -/
def Slave.expect (slave : Slave) (element : Element) : Slave :=
  Slave.countDown { slave with received := slave.received ++ [element] } element.table element.id

theorem expect_undefined (slave : Slave) (element : Element) (table : Table) :
    (slave.expect element).undefined table =
      if table = element.table ∧ slave.unfilled table element.id = true ∧ slave.iamUptodate = false
        then slave.undefined table - 1
      else slave.undefined table := by
  refine (countDown_undefined ..).trans ?_
  cases table <;> rfl

theorem Defines.of_expect {element : Element} {tables : State} {bundleState : Nat → BundleState}
    (unfilled : ∀ table i,
      Slave.unfilled { slave.expect element with tables, bundleState } table i =
        if table = element.table ∧ i = element.id then false else slave.unfilled table i) :
    Defines slave { slave.expect element with tables, bundleState } element := by
  have frame := countDown_frame { slave with received := slave.received ++ [element] }
    element.table element.id
  refine ⟨unfilled, fun table => ?_, frame.2.2.1, frame.2.2.2.1, frame.2.2.2.2⟩
  refine Eq.trans ?_ (expect_undefined slave element table)
  cases table <;> rfl

theorem loadSession_unfilled {st : State} {id : Nat} {new : Session} (i : Nat)
    (fits : new.tunnel < maxTunnel ∧ new.ipPoolIndex < maxIpPool) :
    ((loadSession st id new).1.session i).isUndefined =
      if i = id then false else (st.session i).isUndefined := by
  have loaded : (loadSession st id new).1.session =
      update st.session id (Session.checked st new) := by
    rcases loadSession_spec st id new with ⟨strange, _⟩ | ⟨_, session, _⟩
    · exact absurd ⟨fits.2, fits.1⟩ strange
    · exact session
  rw [loaded]
  by_cases here : i = id
  · rw [here, update_self, if_pos rfl]
    exact decide_eq_false (Nat.ne_of_lt fits.1)
  · rw [update_of_ne here, if_neg here]

/-- A well-formed element is loaded. -/
theorem recvElement_defines (slave : Slave) {element : Element} (wellFormed : element.WellFormed) :
    ∃ next, Defines slave next element ∧
      recvElement slave element = Server.clusterUptodate next := by
  have frame := countDown_frame { slave with received := slave.received ++ [element] }
    element.table element.id
  cases element with
  | session id new =>
      have loads : ∀ table i, Slave.unfilled { slave.expect (.session id new) with
          tables := (loadSession slave.tables id new).1
          bundleState := slave.bundleState } table i =
            if table = .session ∧ i = id then false else slave.unfilled table i := by
        intro table i
        cases table with
        | session => simpa [Slave.unfilled] using loadSession_unfilled i wellFormed.2
        | bundle => rfl
        | tunnel =>
            exact congrArg Tunnel.isUndefined (congrFun (loadSession_tunnel slave.tables id new) i)
      refine ⟨_, .of_expect loads, (if_neg (Nat.not_le.mpr wellFormed.1)).trans ?_⟩
      exact congrArg (fun bundleState => Server.clusterUptodate
        { slave.expect (.session id new) with
          tables := (loadSession slave.tables id new).1
          bundleState }) frame.1
  | bundle id state =>
      have loads : ∀ table i, Slave.unfilled { slave.expect (.bundle id state) with
          tables := slave.tables
          bundleState := update slave.bundleState id state } table i =
            if table = .bundle ∧ i = id then false else slave.unfilled table i := by
        intro table i
        cases table with
        | session | tunnel => rfl
        | bundle =>
            change (update slave.bundleState id state i).isUndefined = _
            by_cases here : i = id
            · rw [here, update_self, if_pos ⟨rfl, rfl⟩]
              exact decide_eq_false wellFormed.2
            · rw [update_of_ne here, if_neg fun both => here both.2]
              rfl
      refine ⟨_, .of_expect loads, (if_neg (Nat.not_le.mpr wellFormed.1)).trans ?_⟩
      exact congrArg (fun tables => Server.clusterUptodate { slave.expect (.bundle id state) with
        tables
        bundleState := update slave.bundleState id state }) frame.2.1
  | tunnel id new =>
      have loads : ∀ table i, Slave.unfilled { slave.expect (.tunnel id new) with
          tables := slave.tables.setTunnel id fun _ => new
          bundleState := slave.bundleState } table i =
            if table = .tunnel ∧ i = id then false else slave.unfilled table i := by
        intro table i
        cases table with
        | session | bundle => rfl
        | tunnel =>
            change ((slave.tables.setTunnel id fun _ => new).tunnel i).isUndefined = _
            by_cases here : i = id
            · rw [here, State.setTunnel_same, if_pos ⟨rfl, rfl⟩]
              exact decide_eq_false wellFormed.2
            · rw [State.setTunnel_other here, if_neg fun both => here both.2]
              rfl
      refine ⟨_, .of_expect loads, (if_neg (Nat.not_le.mpr wellFormed.1)).trans ?_⟩
      exact congrArg (fun bundleState => Server.clusterUptodate { slave.expect (.tunnel id new) with
        tables := slave.tables.setTunnel id fun _ => new
        bundleState }) frame.1

theorem Filled.recvElement (filled : Filled slave) {element : Element}
    (wellFormed : element.WellFormed) : Filled (recvElement slave element) := by
  obtain ⟨next, defines, loads⟩ := recvElement_defines slave wellFormed
  have below : element.id < element.table.size := by
    cases element <;> exact wellFormed.1
  rw [loads]
  exact (filled.defines below defines).clusterUptodate

section Check

variable (slave) (highs : Table → Int) (last : Table → Nat)

/-- The tables swept up to the announced limits. -/
abbrev Slave.swept : Slave :=
  sweepTables slave last (highs .session) (highs .bundle) (highs .tunnel)

theorem swept_uptodate : (slave.swept highs last).iamUptodate = slave.iamUptodate := rfl

theorem swept_received : (slave.swept highs last).received = slave.received := rfl

theorem swept_announced : (slave.swept highs last).announced = slave.announced := rfl

theorem swept_unfilled (table : Table) {i : Nat} (positive : 0 < i) (within : i ≤ last table) :
    (slave.swept highs last).unfilled table i = true ↔
      slave.unfilled table i = true ∧ (i : Int) ≤ highs table := by
  cases table with
  | session =>
      simp only [Slave.unfilled, sweepTables]
      exact sweep_isOpen (fun session => by rfl) positive within
  | bundle =>
      simp only [Slave.unfilled, sweepTables]
      exact sweep_isOpen (fun state => by rfl) positive within
  | tunnel =>
      simp only [Slave.unfilled, sweepTables]
      exact sweep_isOpen (fun tunnel => by rfl) positive within

theorem swept_zero (table : Table) :
    (slave.swept highs last).unfilled table 0 = slave.unfilled table 0 := by
  cases table with
  | session => exact congrArg Session.isUndefined (sweep_beyond (.inl rfl))
  | bundle => exact congrArg BundleState.isUndefined (sweep_beyond (.inl rfl))
  | tunnel => exact congrArg Tunnel.isUndefined (sweep_beyond (.inl rfl))

theorem swept_undefined (zero : ∀ table, slave.unfilled table 0 = false) (table : Table)
    {bound : Nat} (whole : last table + 1 = bound) :
    (slave.swept highs last).undefined table =
      openCount id ((slave.swept highs last).unfilled table) bound := by
  rw [← whole]
  have outside := zero table
  cases table with
  | session =>
      simp only [Slave.unfilled, Slave.undefined, sweepTables] at outside ⊢
      exact sweep_count (fun session => by rfl) outside _
  | bundle =>
      simp only [Slave.unfilled, Slave.undefined, sweepTables] at outside ⊢
      exact sweep_count (fun state => by rfl) outside _
  | tunnel =>
      simp only [Slave.unfilled, Slave.undefined, sweepTables] at outside ⊢
      exact sweep_count (fun tunnel => by rfl) outside _

end Check

/-- What a sweep settles lies above what was announced. -/
theorem Filled.swept (filled : Filled slave) {head : Cluster.Heart}
    (announced : head ∈ slave.announced) (late : slave.iamUptodate = false) :
    Filled (slave.swept (high head) fun table => table.size - 1) where
  zero table := (swept_zero slave _ _ table).trans (filled.zero table)
  counted table := swept_undefined slave (high head) _ filled.zero table
    (Nat.sub_add_cancel table.size_pos)
  uptodate reached := by
    rw [swept_uptodate, late] at reached
    cases reached
  known table i positive below defined := by
    rw [swept_received, swept_announced]
    by_cases before : slave.unfilled table i = true
    · refine .inr ⟨head, announced, ?_⟩
      by_contra within
      have still := (swept_unfilled slave (high head) (fun table => table.size - 1) table positive
        (Nat.le_sub_one_of_lt below)).mpr ⟨before, Int.not_lt.mp within⟩
      rw [defined] at still
      cases still
    · exact filled.known table i positive below ((Bool.not_eq_true _).mp before)

theorem Filled.freed (filled : Filled slave) (free : Nat) :
    Filled { slave with
      tables := slave.tables.setSession 0 fun session => { session with next := free } } := by
  refine filled.congr (fun table i => ?_) (fun table => ?_) (fun done => done) rfl
    (fun _ member => member)
  · cases table with
    | session =>
        simp only [Slave.unfilled]
        exact State.setSession_frame Session.isUndefined (by rfl) i
    | bundle | tunnel => rfl
  · cases table <;> rfl

theorem Filled.noted (filled : Filled slave) (head : Cluster.Heart) :
    Filled { slave with announced := slave.announced ++ [head] } := by
  refine filled.congr (fun table i => ?_) (fun table => ?_) (fun done => done) rfl
    (fun _ member => List.mem_append_left _ member)
  · cases table <;> rfl
  · cases table <;> rfl

theorem Filled.clusterCheckSessions (filled : Filled slave) {head : Cluster.Heart}
    (announced : head ∈ slave.announced) :
    Filled (clusterCheckSessions slave (Cluster.int32 head.highsession)
      (Cluster.int32 head.freesession) (Cluster.int32 head.highbundle)
      (Cluster.int32 head.hightunnel)) := by
  simp only [Server.clusterCheckSessions]
  by_cases late : slave.iamUptodate = true
  · rw [if_pos late]
    exact filled.freed _
  · rw [if_neg late]
    split
    · exact filled.freed _
    · exact ((filled.freed _).swept announced ((Bool.not_eq_true _).mp late)).clusterUptodate

theorem Filled.recvHeartbeat (filled : Filled slave) (head : Cluster.Heart)
    {elements : List Element} (wellFormed : ∀ element ∈ elements, element.WellFormed) :
    Filled (recvHeartbeat slave head elements) := by
  have checked := (filled.noted head).clusterCheckSessions
    (List.mem_append_right _ List.mem_cons_self)
  simp only [Server.recvHeartbeat]
  generalize Server.clusterCheckSessions _ _ _ _ _ = ready at checked ⊢
  induction elements generalizing ready with
  | nil => exact checked
  | cons element elements ih =>
      rw [List.foldl_cons]
      exact ih (fun other member => wellFormed other (List.mem_cons_of_mem _ member)) _
        (checked.recvElement (wellFormed element List.mem_cons_self))

theorem Filled.works (filled : Filled slave) {tables : State}
    (sessions : ∀ s, (tables.session s).tunnel = (slave.tables.session s).tunnel)
    (tunnels : ∀ t, (tables.tunnel t).state = (slave.tables.tunnel t).state) :
    Filled { slave with tables } := by
  refine filled.congr (fun table i => ?_) (fun table => ?_) (fun done => done) rfl
    (fun _ member => member)
  · cases table with
    | session => exact congrArg (fun t => decide (t = tUndef)) (sessions i)
    | bundle => rfl
    | tunnel => exact congrArg (fun state : TunnelState => decide (state = .undef )) (tunnels i)
  · cases table <;> rfl

theorem filled_of_reachable (reached : slaveSystem.Reachable slave) : Filled slave := by
  refine reached.invariant ?_ ?_
  · rintro slave ⟨config, pool, ipPoolSize, time, timeNow, rfl⟩
    exact start_filled config pool ipPoolSize time timeNow
  · rintro slave action _ filled ⟨possible, rfl⟩
    cases action with
    | heartbeat head elements => exact filled.recvHeartbeat head possible
    | works tables => exact filled.works possible.1 possible.2

/-- Up to date is honest. In every state that a well-formed master leads to, each
counter is at least the number of undefined entries up to any limit; and once the
slave says that it is up to date, no entry is undefined, and each was received or
lies above the highest one in use that a heartbeat announced. -/
theorem uptodate_honest (slave : Slave) (reached : slaveSystem.Reachable slave) (table : Table) :
    (∀ limit : Int, Nat.count (fun i => slave.unfilled table i = true ∧ (i : Int) ≤ limit)
      table.size ≤ slave.undefined table) ∧
    (slave.iamUptodate = true → ∀ i, 0 < i → i < table.size →
      slave.unfilled table i = false ∧
        ((∃ element ∈ slave.received, element.table = table ∧ element.id = i) ∨
          ∃ head ∈ slave.announced, high head table < i)) := by
  have filled := filled_of_reachable reached
  constructor
  · intro limit
    rw [filled.counted]
    exact Int.ofNat_le.mpr (count_selected_le (fun i => (i : Int) ≤ limit))
  · intro done i positive below
    have zero := filled.uptodate done table
    rw [filled.counted, Int.natCast_eq_zero] at zero
    have defined := settled_of_openCount_eq_zero zero below
    exact ⟨defined, filled.known table i positive below defined⟩

/-- The header of a master on which nothing is in use. -/
def idleHead : Cluster.Heart := ⟨9, 0, 0, 0, 0, 1, 0, 0, 5, 150, 0⟩

theorem idle_high (table : Table) : high idleHead table = 0 := by
  have zero : Cluster.int32 0 = 0 := Int.zero_bmod
  cases table with
  | session | bundle | tunnel => exact zero

theorem Filled.swept_idle (filled : Filled slave) (announced : idleHead ∈ slave.announced)
    (late : slave.iamUptodate = false) (table : Table) :
    (slave.swept (high idleHead) fun table => table.size - 1).undefined table = 0 := by
  have swept := filled.swept announced late
  rw [swept.counted, Int.natCast_eq_zero]
  refine Nat.count_iff_forall_not.mpr fun i below opened => ?_
  rcases Nat.eq_zero_or_pos i with rfl | positive
  · exact absurd opened (by rw [id_eq, swept.zero]; exact nofun)
  · have within := (swept_unfilled slave (high idleHead) (fun table => table.size - 1) table
      positive (Nat.le_sub_one_of_lt below)).mp opened
    rw [idle_high] at within
    omega

/-- A master on which nothing is in use brings a slave up to date at once. -/
theorem Filled.idle_uptodate (filled : Filled slave) :
    (Server.recvHeartbeat slave idleHead []).iamUptodate = true := by
  have ready := (filled.noted idleHead).freed
    (Cluster.int32 idleHead.freesession % 2 ^ 16).toNat
  have announced : idleHead ∈ slave.announced ++ [idleHead] :=
    List.mem_append_right _ List.mem_cons_self
  simp only [Server.recvHeartbeat, List.foldl_nil, Server.clusterCheckSessions]
  by_cases late : slave.iamUptodate = true
  · rw [if_pos late]
    exact late
  · rw [if_neg late, if_neg]
    · have zero := ready.swept_idle announced ((Bool.not_eq_true _).mp late)
      refine clusterUptodate_settled fun table => ?_
      exact zero table
    · rintro ⟨above, _⟩
      have nonneg : 0 ≤ slave.undefinedSessions :=
        (Int.natCast_nonneg _).trans_eq (ready.counted .session).symm
      have limit : Cluster.int32 idleHead.highsession = 0 := idle_high .session
      rw [limit] at above
      exact absurd above (Int.not_lt.mpr nonneg)

/-- A slave that hears of a master on which nothing is in use. -/
def idleSlave : Slave :=
  (Slave.start (.start .zero (fun _ => .zero) 0 0 0)).act (.heartbeat idleHead [])

theorem idleSlave_reachable : slaveSystem.Reachable idleSlave :=
  .step (.heartbeat idleHead []) (.initial ⟨.zero, fun _ => .zero, 0, 0, 0, rfl⟩) trivial
    ⟨fun _ member => absurd member List.not_mem_nil, rfl⟩

theorem uptodate_honest_idle : idleSlave.unfilled .session 7 = false :=
  ((uptodate_honest idleSlave idleSlave_reachable .session).2
    (start_filled .zero (fun _ => .zero) 0 0 0).idle_uptodate 7 (by decide) (by decide)).1

end L2tpns.Server
