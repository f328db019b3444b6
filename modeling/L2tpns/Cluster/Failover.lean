import L2tpns.Cluster.Replication

/-! # A slave takes over

Two slaves hear the same master, each a prefix of its heartbeats, until one of
them declares itself master in `clusterCheckMaster`. It goes on from the number
it waited for, and heartbeats carry no sign of who sent them: a survivor that
had heard more than the new master takes the new master's heartbeat with the
number it waits for, and has then skipped those before it
(`L2tpns.Cluster.Failover.failover_skips`). In all other runs it skips nothing
(`L2tpns.Cluster.Failover.failover_in_order`).
-/

namespace L2tpns.Cluster

/-- What happens to a slave besides heartbeats: its clocks move, pings change
its table of peers, it checks on its master, or it is told of another one. -/
inductive Life where
  | clock (time timeNow : Nat)
  | meet (peers : List Peer)
  | check
  | told (master : Nat)

def Node.lives (node : Node) : Life → Node × List Event
  | .clock time timeNow => ({ node with time := time, timeNow := timeNow }, [])
  | .meet peers => ({ node with peers := peers }, [])
  | .check => clusterCheckMaster node
  | .told master => clusterSetMaster node master

/-- A slave and how many heartbeats it has loaded. -/
structure Follower where
  node : Node
  heard : Nat

/-- A master, all the heartbeats it sent, and two slaves. -/
structure Reign where
  old : Node
  sent : List Heartbeat
  heir : Follower
  survivor : Follower

inductive Reign.Action where
  | change (numChanges : Nat)
  | heartbeat (elements : List UInt8)
  | heirHears (position : Nat) (heartbeat : Heartbeat)
  | survivorHears (position : Nat) (heartbeat : Heartbeat)
  | heirLives (life : Life)
  | survivorLives (life : Life)

namespace Follower

/-- The heartbeat at a position may arrive at any time and any number of times,
or never. A slave that has heard nothing hears the first one first, and numbers
are compared inside their range. -/
def MayHear (follower : Follower) (position : Nat) : Prop :=
  (follower.heard = 0 → position = 0) ∧ position < follower.heard + hbMaxSeq ∧
    follower.heard < position + hbMaxSeq

def hears (loads : Nat → List UInt8 → Bool) (follower : Follower) (heartbeat : Heartbeat)
    (addr : Nat) : Follower :=
  let result := processcluster loads follower.node (.heartbeat heartbeat) addr
  { node := result.1, heard := follower.heard + (loadsOf result.2).length }

def lives (follower : Follower) (life : Life) : Follower :=
  { follower with node := (follower.node.lives life).1 }

end Follower

namespace Reign

def enabled (reign : Reign) : Action → Prop
  | .heirHears position heartbeat =>
      reign.sent[position]? = some heartbeat ∧ reign.heir.MayHear position
  | .survivorHears position heartbeat =>
      reign.sent[position]? = some heartbeat ∧ reign.survivor.MayHear position
  | .heirLives life => (reign.heir.lives life).node.iamMaster = false
  | .survivorLives life => (reign.survivor.lives life).node.iamMaster = false
  | _ => True

def act (loads : Nat → List UInt8 → Bool) (reign : Reign) : Action → Reign
  | .change numChanges => { reign with old := { reign.old with numChanges := numChanges } }
  | .heartbeat elements =>
      let result := clusterHeartbeat reign.old elements
      { reign with old := result.1, sent := reign.sent ++ heartbeatsOf result.2 }
  | .heirHears _ heartbeat =>
      { reign with heir := reign.heir.hears loads heartbeat reign.old.myAddress }
  | .survivorHears _ heartbeat =>
      { reign with survivor := reign.survivor.hears loads heartbeat reign.old.myAddress }
  | .heirLives life => { reign with heir := reign.heir.lives life }
  | .survivorLives life => { reign with survivor := reign.survivor.lives life }

/-- A slave that has heard no master. -/
structure Fresh (follower : Follower) : Prop where
  slave : follower.node.iamMaster = false
  counter : follower.node.seqNumber = -1
  hearts : follower.node.pastHearts = noPastHearts
  nothing : follower.heard = 0

/-- A master at the number of `first`, and two slaves that have heard nobody. -/
structure Starts (first : Nat) (reign : Reign) : Prop where
  master : reign.old.iamMaster = true
  counter : reign.old.seqNumber = seqOf first
  sent : reign.sent = []
  heir : Fresh reign.heir
  survivor : Fresh reign.survivor

def system (loads : Nat → List UInt8 → Bool) (first : Nat) :
    Foundation.TransitionSystem Reign Action where
  initial := Starts first
  step reign action next := reign.enabled action ∧ next = reign.act loads action

end Reign

/-- A slave that declares itself master goes on from the number it waited for,
with the heartbeats it saved. -/
structure Succeeds (node : Node) (result : Node × List Event) : Prop where
  master : result.1.iamMaster = true
  counter : result.1.seqNumber = if node.seqNumber = -1 then 0 else node.seqNumber
  hearts : result.1.pastHearts = node.pastHearts

theorem clusterCheckMaster_cases {node : Node} (slave : node.iamMaster = false) :
    Passes node (clusterCheckMaster node) ∨ Succeeds node (clusterCheckMaster node) := by
  have probed := probeMaster_passes slave
  unfold clusterCheckMaster
  rw [slave]
  simp only [Bool.false_eq_true, ↓reduceIte]
  split
  · exact .inl probed
  split
  · exact .inl ⟨probed.slave, probed.nothing, probed.counter, probed.hearts⟩
  split
  · exact .inl ⟨probed.slave, probed.nothing, probed.counter, probed.hearts⟩
  · refine .inr ⟨rfl, ?_, probed.hearts⟩
    dsimp only
    rw [probed.counter]

theorem clusterCheckMaster_passes {node : Node} (slave : node.iamMaster = false)
    (stays : (clusterCheckMaster node).1.iamMaster = false) :
    Passes node (clusterCheckMaster node) := by
  rcases clusterCheckMaster_cases slave with passes | succeeds
  · exact passes
  · rw [succeeds.master] at stays
    cases stays

theorem Passes.before {node : Node} {result : Node × List Event} (passes : Passes node result)
    (peer : Nat) (seq : Int) :
    Passes node (result.1, peerSend peer (.lastseen seq) ++ result.2) where
  slave := passes.slave
  nothing := by
    unfold loadsOf
    rw [List.filterMap_append]
    exact congrArg₂ (· ++ ·) (loadsOf_peerSend_lastseen peer seq) passes.nothing
  counter := passes.counter
  hearts := passes.hearts

theorem lives_passes {node : Node} {life : Life} (slave : node.iamMaster = false)
    (stays : (node.lives life).1.iamMaster = false) : Passes node (node.lives life) := by
  cases life with
  | clock time timeNow | meet peers => exact ⟨slave, rfl, rfl, rfl⟩
  | check => exact clusterCheckMaster_passes slave stays
  | told master =>
      change (clusterSetMaster node master).1.iamMaster = false at stays
      change Passes node (clusterSetMaster node master)
      have follows : ¬ node.iamMaster = true := by simp [slave]
      unfold clusterSetMaster at stays ⊢
      rw [if_neg follows] at stays ⊢
      by_cases null : master = 0
      · rw [if_pos null] at stays ⊢
        have checked := clusterCheckMaster_passes (by exact slave) stays
        exact ⟨checked.slave, checked.nothing, checked.counter, checked.hearts⟩
      · rw [if_neg null] at stays ⊢
        have checked := clusterCheckMaster_passes (by exact slave) stays
        have sends := checked.before master node.seqNumber
        exact ⟨sends.slave, sends.nothing, sends.counter, sends.hearts⟩

/-- A slave has loaded the first `heard` heartbeats, remembers them and waits
for the next one. -/
structure Followed (first : Nat) (sent : List Heartbeat) (follower : Follower) : Prop where
  slave : follower.node.iamMaster = false
  within : follower.heard ≤ sent.length
  counter : follower.node.seqNumber =
    if follower.heard = 0 then -1 else seqOf (first + follower.heard)
  ring : Foundation.Remembers hbHistorySize first
    (fun count heartbeat => ⟨seqOf count, some heartbeat⟩) (· = ⟨0, none⟩)
    (sent.take follower.heard) follower.node.pastHearts

namespace Followed

variable {first : Nat} {sent : List Heartbeat} {follower : Follower}

theorem passes (followed : Followed first sent follower) {result : Node × List Event}
    (stays : Passes follower.node result) :
    Followed first sent { follower with node := result.1 } where
  slave := stays.slave
  within := followed.within
  counter := stays.counter.trans followed.counter
  ring := stays.hearts ▸ followed.ring

theorem extend (followed : Followed first sent follower) (more : List Heartbeat) :
    Followed first (sent ++ more) follower where
  slave := followed.slave
  within := by
    have within := followed.within
    rw [List.length_append]
    omega
  counter := followed.counter
  ring := by
    rw [List.take_append_of_le_length followed.within]
    exact followed.ring

theorem expected (followed : Followed first sent follower) {position addr : Nat}
    {heartbeat : Heartbeat} {result : Node × List Event}
    (numbered : heartbeat.head.seq = (first + position) % hbMaxSeq)
    (window : follower.MayHear position)
    (takes : Takes follower.node heartbeat addr result) : position = follower.heard := by
  obtain ⟨firstly, ahead, behind⟩ := window
  by_cases nothing : follower.heard = 0
  · rw [firstly nothing, nothing]
  · have counter := followed.counter
    rw [if_neg nothing] at counter
    have same := takes.expects
    rw [counter, uint32_seqOf, numbered] at same
    have equal := same.resolve_left (seqOf_ne_neg_one _)
    have := Foundation.eq_of_serial_eq equal (by omega) (by omega)
    omega

theorem hears (followed : Followed first sent follower) (loads : Nat → List UInt8 → Bool)
    {position : Nat} {heartbeat : Heartbeat} (addr : Nat)
    (present : sent[position]? = some heartbeat)
    (numbered : heartbeat.head.seq = (first + position) % hbMaxSeq)
    (window : follower.MayHear position) :
    Followed first sent (follower.hears loads heartbeat addr) := by
  have word : heartbeat.head.seq < 2 ^ 32 := by
    rw [numbered]
    unfold hbMaxSeq
    omega
  unfold Follower.hears
  dsimp only
  rcases processcluster_cases loads followed.slave (.heartbeat heartbeat) addr
    (fun _ same => Message.heartbeat.inj same ▸ word) (fun _ => nofun) with
    stays | ⟨other, same, takes⟩
  · rw [stays.nothing]
    exact followed.passes stays
  · cases same
    have here := followed.expected numbered window takes
    rw [takes.loaded]
    rw [here] at present numbered
    have inside := (List.getElem?_eq_some_iff.mp present).1
    have longer : sent.take (follower.heard + 1) = sent.take follower.heard ++ [heartbeat] := by
      rw [List.take_add_one, present]
      rfl
    constructor
    · exact takes.slave
    · exact inside
    · exact (Link.next_of_takes takes numbered).trans (if_neg (Nat.succ_ne_zero _)).symm
    · change Foundation.Remembers _ _ _ _ (sent.take (follower.heard + 1)) _
      have pushed := followed.ring.push (by decide) heartbeat
      rw [List.length_take, Nat.min_eq_left followed.within] at pushed
      rw [longer, takes.hearts, numbered, int32_mod,
        Nat.mod_mod_of_dvd _ (by decide : hbHistorySize ∣ hbMaxSeq)]
      exact pushed

end Followed

namespace Reign

variable {first : Nat} {reign : Reign}

structure Invariant (first : Nat) (reign : Reign) : Prop where
  master : reign.old.iamMaster = true
  counter : reign.old.seqNumber = seqOf (first + reign.sent.length)
  numbered : ∀ position heartbeat, reign.sent[position]? = some heartbeat →
    heartbeat.head.seq = (first + position) % hbMaxSeq
  heir : Followed first reign.sent reign.heir
  survivor : Followed first reign.sent reign.survivor

theorem Fresh.followed {follower : Follower} (fresh : Fresh follower) :
    Followed first [] follower where
  slave := fresh.slave
  within := by rw [fresh.nothing, List.length_nil]
  counter := by rw [fresh.nothing, fresh.counter, if_pos rfl]
  ring := by
    rw [List.take_nil, fresh.hearts]
    exact .empty fun _ => rfl

theorem Starts.invariant (starts : Starts first reign) : Invariant first reign where
  master := starts.master
  counter := by rw [starts.counter, starts.sent, List.length_nil, Nat.add_zero]
  numbered position heartbeat present := by
    rw [starts.sent, List.getElem?_nil] at present
    cases present
  heir := by
    rw [starts.sent]
    exact starts.heir.followed
  survivor := by
    rw [starts.sent]
    exact starts.survivor.followed

theorem Invariant.heartbeat (invariant : Invariant first reign) (loads : Nat → List UInt8 → Bool)
    (elements : List UInt8) : Invariant first (reign.act loads (.heartbeat elements)) := by
  unfold Reign.act
  dsimp only
  rcases Nat.lt_or_ge maxHeartSize (reign.old.nextHeartbeat elements).size with oversize | fits
  · rw [clusterHeartbeat_of_oversize invariant.master oversize]
    have silent : reign.sent ++ heartbeatsOf [.exit .oversizeHeartbeat] = reign.sent :=
      List.append_nil _
    rw [silent]
    exact ⟨invariant.master, invariant.counter, invariant.numbered, invariant.heir,
      invariant.survivor⟩
  · rw [clusterHeartbeat_of_fits invariant.master fits]
    generalize sending : reign.old.nextHeartbeat elements = heartbeat
    have number : heartbeat.head.seq = (first + reign.sent.length) % hbMaxSeq := by
      rw [← sending]
      change uint32 reign.old.seqNumber = _
      rw [invariant.counter, uint32_seqOf]
    constructor
    · exact invariant.master
    · change (reign.old.seqNumber + 1).tmod hbMaxSeq =
        seqOf (first + (reign.sent ++ [heartbeat]).length)
      rw [invariant.counter, seqOf_succ, List.length_append, List.length_singleton, Nat.add_assoc]
    · exact Link.numbered_concat invariant.numbered number
    · exact invariant.heir.extend [heartbeat]
    · exact invariant.survivor.extend [heartbeat]

theorem Invariant.act (invariant : Invariant first reign) (loads : Nat → List UInt8 → Bool)
    (action : Action) (possible : reign.enabled action) :
    Invariant first (reign.act loads action) := by
  cases action with
  | change numChanges =>
      exact ⟨invariant.master, invariant.counter, invariant.numbered, invariant.heir,
        invariant.survivor⟩
  | heartbeat elements => exact invariant.heartbeat loads elements
  | heirHears position heartbeat =>
      obtain ⟨present, window⟩ := possible
      have numbered := invariant.numbered position heartbeat present
      exact ⟨invariant.master, invariant.counter, invariant.numbered,
        invariant.heir.hears loads _ present numbered window, invariant.survivor⟩
  | survivorHears position heartbeat =>
      obtain ⟨present, window⟩ := possible
      have numbered := invariant.numbered position heartbeat present
      exact ⟨invariant.master, invariant.counter, invariant.numbered, invariant.heir,
        invariant.survivor.hears loads _ present numbered window⟩
  | heirLives life =>
      exact ⟨invariant.master, invariant.counter, invariant.numbered,
        invariant.heir.passes (lives_passes invariant.heir.slave possible), invariant.survivor⟩
  | survivorLives life =>
      exact ⟨invariant.master, invariant.counter, invariant.numbered, invariant.heir,
        invariant.survivor.passes (lives_passes invariant.survivor.slave possible)⟩

theorem invariant_of_reachable {loads : Nat → List UInt8 → Bool}
    (reached : (system loads first).Reachable reign) : Invariant first reign := by
  refine reached.invariant (fun _ => Starts.invariant) ?_
  rintro reign action _ invariant ⟨possible, rfl⟩
  exact invariant.act loads action possible

theorem reachable_act {loads : Nat → List UInt8 → Bool}
    (reached : (system loads first).Reachable reign) (action : Action)
    (possible : reign.enabled action) :
    (system loads first).Reachable (reign.act loads action) :=
  .step action reached trivial ⟨possible, rfl⟩

end Reign

/-- The new master and the survivor. `inherited` counts the heartbeats of the
old master among those of the link, `joins` is the position the survivor waited
for at the takeover, and `loaded` are the positions it has loaded since. -/
structure Failover where
  link : Link
  inherited : Nat
  joins : Option Nat
  loaded : List Nat

/-- Steps of the new master and the survivor. -/
inductive Failover.Action where
  | link (action : Link.Action)
  | lives (life : Life)

/-- The number of the first heartbeat that the heir has: it starts at 0 if it
has none. -/
def Reign.base (first : Nat) (reign : Reign) : Nat :=
  if reign.heir.heard = 0 then 0 else first

/-- The position the survivor waits for, counted as the heir counts. -/
def Reign.joins (first : Nat) (reign : Reign) : Option Nat :=
  if reign.survivor.heard = 0 then none
  else if reign.heir.heard = 0 then some ((first + reign.survivor.heard) % hbMaxSeq)
  else some reign.survivor.heard

/-- The heir declares itself master. -/
def Reign.succession (first : Nat) (reign : Reign) : Failover where
  link :=
    { master := (clusterCheckMaster reign.heir.node).1
      slave := reign.survivor.node
      ended := false
      sent := reign.sent.take reign.heir.heard
      applied := []
      next := reign.joins first
      toSlave := []
      toMaster := [] }
  inherited := reign.heir.heard
  joins := reign.joins first
  loaded := []

namespace Failover

/-- The survivor stays a slave. -/
def enabled (failover : Failover) : Action → Prop
  | .link action => failover.link.enabled action
  | .lives life =>
      failover.link.ended = false ∧ (failover.link.slave.lives life).1.iamMaster = false

section

variable (loads : Nat → List UInt8 → Bool)

/-- The position that the survivor loads in a step. -/
def loadedBy (failover : Failover) : Link.Action → List Nat
  | .receive copy =>
      if loadsOf (processcluster loads failover.link.slave copy.message
        failover.link.master.myAddress).2 = [] then [] else [copy.position]
  | _ => []

def act (failover : Failover) : Action → Failover
  | .link action =>
      { failover with
        link := failover.link.act loads action
        loaded := failover.loaded ++ failover.loadedBy loads action }
  | .lives life =>
      { failover with
        link := failover.link.slaveMoves 0 (failover.link.slave.lives life) }

/-- A slave of a reign declares itself master. -/
def system (first : Nat) : Foundation.TransitionSystem Failover Action where
  initial failover := ∃ reign : Reign, (Reign.system loads first).Reachable reign ∧
    (clusterCheckMaster reign.heir.node).1.iamMaster = true ∧
      failover = reign.succession first
  step failover action next := failover.enabled action ∧ next = failover.act loads action

end

/-- No datagram older than `hbMaxSeq - hbHistorySize` heartbeats arrives. -/
def Young (failover : Failover) : Action → Prop
  | .link action => failover.link.Young action
  | .lives _ => True

/-- The survivor is less than `hbMaxSeq` heartbeats behind when one arrives, and
less than `hbMaxSeq` ahead of it. -/
def Near (failover : Failover) : Action → Prop
  | .link (.receive ⟨.heartbeat _, position, _⟩) =>
      ∀ expected, failover.link.next = some expected →
        failover.link.sent.length < expected + hbMaxSeq ∧ expected < position + hbMaxSeq
  | _ => True

/-- A survivor that waits for a number beyond the new master's first one does
not get the new master's heartbeat with that number, and one that waits for
nothing hears the new master's first heartbeat, or an earlier one, first. -/
def Aligned (failover : Failover) : Action → Prop
  | .link (.receive ⟨.heartbeat _, position, _⟩) =>
      failover.link.slave.masterAddress = 0 ∨
          failover.link.master.myAddress = failover.link.slave.masterAddress →
        (failover.joins = some position → position ≤ failover.inherited) ∧
          (failover.link.next = none → position ≤ failover.inherited)
  | _ => True

/-- The survivor loads a contiguous piece that starts with the new master's
first heartbeat or before it. -/
structure Follows (base : Nat) (failover : Failover) : Prop where
  link : Link.Invariant base failover.link
  counted : failover.link.applied.length = failover.loaded.length
  contiguous : failover.link.next = none ∧ failover.loaded = [] ∨
    ∃ start, start ≤ failover.inherited ∧
      failover.link.next = some (start + failover.loaded.length) ∧
        failover.loaded = List.range' start failover.loaded.length

/-- The link as it would be with a survivor that has heard nobody. -/
def unheard (link : Link) : Link :=
  { link with
    slave := { link.slave with seqNumber := -1 }
    applied := []
    next := none }

/-- The survivor waits for a number beyond the new master's first one, and has
loaded nothing. -/
structure Ahead (base : Nat) (failover : Failover) : Prop where
  link : Link.Invariant base (unheard failover.link)
  beyond : ∃ expected, failover.joins = some expected ∧ failover.link.next = some expected ∧
    failover.link.slave.seqNumber = seqOf (base + expected) ∧ failover.inherited < expected
  applied : failover.link.applied = []
  loaded : failover.loaded = []

variable {base first : Nat} {failover : Failover}

theorem of_unheard {link : Link} (invariant : Link.Invariant base (unheard link))
    (waits : link.Waits base) : Link.Invariant base link :=
  ⟨invariant.master, invariant.counter, invariant.numbered, invariant.ring, invariant.copies,
    invariant.noMaster, invariant.slave, waits⟩

/-- The heir counts on from the heartbeats it has heard. -/
theorem succession_unheard {reign : Reign} (invariant : Reign.Invariant first reign)
    (succeeds : Succeeds reign.heir.node (clusterCheckMaster reign.heir.node)) :
    Link.Invariant (reign.base first) (unheard (reign.succession first).link) := by
  have heir := invariant.heir
  have inherited : (reign.sent.take reign.heir.heard).length = reign.heir.heard := by
    rw [List.length_take, Nat.min_eq_left heir.within]
  have counter := succeeds.counter
  rw [heir.counter] at counter
  refine ⟨succeeds.master, ?_, ?_, ?_, ?_, ?_, invariant.survivor.slave, .inl ⟨rfl, rfl, rfl⟩⟩
  · change (clusterCheckMaster reign.heir.node).1.seqNumber =
      seqOf (reign.base first + (reign.sent.take reign.heir.heard).length)
    rw [counter, inherited]
    unfold Reign.base
    by_cases nothing : reign.heir.heard = 0
    · simp only [nothing, ↓reduceIte]
      rfl
    · simp only [nothing, ↓reduceIte, seqOf_ne_neg_one]
  · intro position heartbeat present
    change (reign.sent.take reign.heir.heard)[position]? = some heartbeat at present
    have inside := (List.getElem?_eq_some_iff.mp present).1
    rw [inherited] at inside
    rw [List.getElem?_take_of_lt inside] at present
    unfold Reign.base
    rw [if_neg (by omega)]
    exact invariant.numbered position heartbeat present
  · change Foundation.Remembers _ _ _ _ (reign.sent.take reign.heir.heard)
      (clusterCheckMaster reign.heir.node).1.pastHearts
    rw [succeeds.hearts]
    have ring := heir.ring
    unfold Reign.base
    by_cases nothing : reign.heir.heard = 0
    · rw [nothing, List.take_zero] at ring ⊢
      refine .empty fun slot => ?_
      rcases ring.nothingElse slot with blank | ⟨position, value, present, _⟩
      · exact blank
      · rw [List.getElem?_nil] at present
        cases present
    · rw [if_neg nothing]
      exact ring
  · exact fun copy member => absurd member List.not_mem_nil
  · exact fun copy member => absurd member List.not_mem_nil

theorem succession_counter {reign : Reign} (invariant : Reign.Invariant first reign) :
    reign.joins first = none ∧ reign.survivor.node.seqNumber = -1 ∨
      ∃ expected, reign.joins first = some expected ∧
        reign.survivor.node.seqNumber = seqOf (reign.base first + expected) := by
  have counter := invariant.survivor.counter
  unfold Reign.joins Reign.base
  by_cases unheard : reign.survivor.heard = 0
  · rw [if_pos unheard] at counter ⊢
    exact .inl ⟨rfl, counter⟩
  · rw [if_neg unheard] at counter ⊢
    by_cases nothing : reign.heir.heard = 0
    · rw [if_pos nothing, if_pos nothing]
      refine .inr ⟨_, rfl, ?_⟩
      rw [counter, Nat.zero_add]
      unfold seqOf
      rw [Nat.mod_mod]
    · rw [if_neg nothing, if_neg nothing]
      exact .inr ⟨_, rfl, counter⟩

theorem succession_invariant {reign : Reign} (invariant : Reign.Invariant first reign)
    (wins : (clusterCheckMaster reign.heir.node).1.iamMaster = true) :
    Follows (reign.base first) (reign.succession first) ∨
      Ahead (reign.base first) (reign.succession first) := by
  have succeeds : Succeeds reign.heir.node (clusterCheckMaster reign.heir.node) := by
    rcases clusterCheckMaster_cases invariant.heir.slave with passes | succeeds
    · rw [passes.slave] at wins
      cases wins
    · exact succeeds
  have link := succession_unheard invariant succeeds
  rcases succession_counter invariant with ⟨fresh, counter⟩ | ⟨expected, joins, counter⟩
  · refine .inl ⟨of_unheard link (.inl ⟨fresh, counter, rfl⟩), rfl, .inl ⟨fresh, rfl⟩⟩
  rcases Nat.lt_or_ge reign.heir.heard expected with ahead | heard
  · exact .inr ⟨link, ⟨expected, joins, joins, counter, ahead⟩, rfl, rfl⟩
  · have within : expected ≤ (reign.sent.take reign.heir.heard).length := by
      rw [List.length_take, Nat.min_eq_left invariant.heir.within]
      exact heard
    refine .inl ⟨of_unheard link (.inr ⟨expected, joins, counter, within, ?_⟩), rfl,
      .inr ⟨expected, heard, joins, rfl⟩⟩
    intro place heartbeat present
    cases present

theorem Follows.passes (follows : Follows base failover) (position : Nat)
    {result : Node × List Event} (stays : Passes failover.link.slave result) :
    Follows base { failover with link := failover.link.slaveMoves position result } where
  link := follows.link.passes position stays
  counted := by
    change (failover.link.applied ++ loadsOf result.2).length = failover.loaded.length
    rw [stays.nothing, List.append_nil]
    exact follows.counted
  contiguous := by
    simpa only [Link.slaveMoves, stays.nothing, ↓reduceIte] using follows.contiguous

theorem Follows.takes (follows : Follows base failover) {position addr : Nat}
    {heartbeat : Heartbeat} {result : Node × List Event}
    (takes : Takes failover.link.slave heartbeat addr result)
    (expected : ∀ expected, failover.link.next = some expected → expected = position)
    (firstly : failover.link.next = none → position ≤ failover.inherited)
    (link : Link.Invariant base (failover.link.slaveMoves position result)) :
    Follows base
      { failover with
        link := failover.link.slaveMoves position result
        loaded := failover.loaded ++ [position] } where
  link := link
  counted := by
    change (failover.link.applied ++ loadsOf result.2).length =
      (failover.loaded ++ [position]).length
    rw [takes.loaded, List.length_append, List.length_append, follows.counted]
    rfl
  contiguous := by
    have next : (failover.link.slaveMoves position result).next = some (position + 1) := by
      simp only [Link.slaveMoves, takes.loaded, reduceCtorEq, ↓reduceIte]
    rw [next, List.length_append, List.length_singleton]
    rcases follows.contiguous with ⟨fresh, nothing⟩ | ⟨start, heard, waits, loaded⟩
    · refine .inr ⟨position, firstly fresh, ?_, ?_⟩
      · rw [nothing, List.length_nil]
      · rw [nothing]
        rfl
    · have here := expected _ waits
      refine .inr ⟨start, heard, ?_, ?_⟩
      · rw [← here, Nat.add_assoc]
      · rw [List.range'_concat, ← loaded, Nat.one_mul, here]

theorem Follows.receive (follows : Follows base failover) (loads : Nat → List UInt8 → Bool)
    {copy : Copy} (sent : copy ∈ failover.link.toSlave)
    (young : failover.Young (.link (.receive copy)))
    (near : failover.Near (.link (.receive copy)))
    (aligned : failover.Aligned (.link (.receive copy))) :
    Follows base (failover.act loads (.link (.receive copy))) := by
  have within : failover.link.Near (.receive copy) := by
    rcases copy with ⟨message, position, sentAt⟩
    cases message with
    | heartbeat heartbeat => exact fun expected waits => (near expected waits).1
    | lastseen | kill | master | empty => trivial
  have kept := follows.link.receive loads sent young within
  unfold Failover.act Failover.loadedBy
  dsimp only [Link.act]
  rcases processcluster_cases loads follows.link.slave copy.message failover.link.master.myAddress
    (follows.link.copy_word sent) (follows.link.noMaster copy sent) with
    passes | ⟨heartbeat, carries, takes⟩
  · rw [passes.nothing, if_pos rfl, List.append_nil]
    exact follows.passes copy.position passes
  · obtain ⟨present, recent⟩ := follows.link.copies copy sent heartbeat carries
    rw [takes.loaded, if_neg (List.cons_ne_nil _ _)]
    rcases copy with ⟨message, position, sentAt⟩
    cases carries
    exact follows.takes takes (follows.link.takes_expected present recent young within takes)
      (aligned takes.follows).2 kept

theorem Follows.act (follows : Follows base failover) (loads : Nat → List UInt8 → Bool)
    (action : Action) (young : failover.Young action) (near : failover.Near action)
    (aligned : failover.Aligned action) (possible : failover.enabled action) :
    Follows base (failover.act loads action) := by
  have moves : ∀ result : Node × List Event,
      Link.Invariant base (failover.link.masterMoves result) →
        Follows base { failover with
          link := failover.link.masterMoves result
          loaded := failover.loaded ++ [] } := by
    intro result link
    rw [List.append_nil]
    exact ⟨link, follows.counted, follows.contiguous⟩
  have stays : ∀ result : Node × List Event, Passes failover.link.slave result →
      Follows base { failover with
        link := failover.link.slaveMoves 0 result
        loaded := failover.loaded ++ [] } := by
    intro result passes
    rw [List.append_nil]
    exact follows.passes 0 passes
  cases action with
  | link action =>
      cases action with
      | change numChanges =>
          exact moves _ (follows.link.act loads (.change _) trivial trivial possible)
      | heartbeat elements => exact moves _ (follows.link.heartbeat elements)
      | clock time timeNow => exact stays _ ⟨follows.link.slave, rfl, rfl, rfl⟩
      | probe => exact stays _ (probeMaster_passes follows.link.slave)
      | receive copy => exact follows.receive loads possible.2 young near aligned
      | request seq => exact moves _ (follows.link.request loads seq)
  | lives life => exact follows.passes 0 (lives_passes follows.link.slave possible.2)

theorem Ahead.passes (ahead : Ahead base failover) (position : Nat)
    {result : Node × List Event} (stays : Passes failover.link.slave result) :
    Ahead base { failover with link := failover.link.slaveMoves position result } where
  link :=
    ⟨ahead.link.master, ahead.link.counter, ahead.link.numbered, ahead.link.ring,
      ahead.link.copies, ahead.link.noMaster, stays.slave, .inl ⟨rfl, rfl, rfl⟩⟩
  beyond := by
    obtain ⟨expected, joins, waits, counter, beyond⟩ := ahead.beyond
    refine ⟨expected, joins, ?_, stays.counter.trans counter, beyond⟩
    simpa only [Link.slaveMoves, stays.nothing, ↓reduceIte] using waits
  applied := by
    change failover.link.applied ++ loadsOf result.2 = []
    rw [stays.nothing, ahead.applied]
    rfl
  loaded := ahead.loaded

/-- Only the heartbeat with the number it waits for could be loaded. -/
theorem Ahead.receive (ahead : Ahead base failover) (loads : Nat → List UInt8 → Bool)
    {copy : Copy} (sent : copy ∈ failover.link.toSlave)
    (near : failover.Near (.link (.receive copy)))
    (aligned : failover.Aligned (.link (.receive copy))) :
    Passes failover.link.slave (processcluster loads failover.link.slave copy.message
      failover.link.master.myAddress) := by
  have slave : failover.link.slave.iamMaster = false := ahead.link.slave
  rcases processcluster_cases loads slave copy.message
    failover.link.master.myAddress (ahead.link.copy_word sent)
    (ahead.link.noMaster copy sent) with passes | ⟨heartbeat, carries, takes⟩
  · exact passes
  · obtain ⟨present, recent⟩ := ahead.link.copies copy sent heartbeat carries
    obtain ⟨expected, joins, waits, counter, beyond⟩ := ahead.beyond
    have numbered := ahead.link.numbered _ _ present
    have inside := (List.getElem?_eq_some_iff.mp present).1
    rcases copy with ⟨message, position, sentAt⟩
    cases carries
    have window := near expected waits
    dsimp only at numbered
    have same := takes.expects
    rw [counter, uint32_seqOf, numbered] at same
    have equal := same.resolve_left (seqOf_ne_neg_one _)
    change position < failover.link.sent.length at inside
    have here := Foundation.eq_of_serial_eq equal (by omega) (by omega)
    have within := (aligned takes.follows).1 (joins.trans (congrArg some (by omega)))
    omega

theorem Ahead.act (ahead : Ahead base failover) (loads : Nat → List UInt8 → Bool)
    (action : Action) (near : failover.Near action)
    (aligned : failover.Aligned action) (possible : failover.enabled action) :
    Ahead base (failover.act loads action) := by
  have moves : ∀ result : Node × List Event,
      Link.Invariant base ((unheard failover.link).masterMoves result) →
        Ahead base { failover with
          link := failover.link.masterMoves result
          loaded := failover.loaded ++ [] } := by
    intro result link
    rw [List.append_nil]
    exact ⟨link, ahead.beyond, ahead.applied, ahead.loaded⟩
  have stays : ∀ position (result : Node × List Event), Passes failover.link.slave result →
      Ahead base { failover with
        link := failover.link.slaveMoves position result
        loaded := failover.loaded ++ [] } := by
    intro position result passes
    rw [List.append_nil]
    exact ahead.passes position passes
  have slave : failover.link.slave.iamMaster = false := ahead.link.slave
  cases action with
  | link action =>
      cases action with
      | change numChanges =>
          exact moves _ (ahead.link.act loads (.change numChanges) trivial trivial possible)
      | heartbeat elements => exact moves _ (ahead.link.heartbeat elements)
      | clock time timeNow => exact stays 0 _ ⟨slave, rfl, rfl, rfl⟩
      | probe => exact stays 0 _ (probeMaster_passes slave)
      | receive copy =>
          have passes := ahead.receive loads possible.2 near aligned
          have nothing : failover.loadedBy loads (.receive copy) = [] := if_pos passes.nothing
          unfold Failover.act
          dsimp only
          rw [nothing]
          exact stays copy.position _ passes
      | request seq => exact moves _ (ahead.link.request loads seq)
  | lives life => exact ahead.passes 0 (lives_passes slave possible.2)

/-- The survivor follows, or it is ahead and has loaded nothing. -/
def Invariant (failover : Failover) : Prop :=
  ∃ base, Follows base failover ∨ Ahead base failover

theorem invariant_of_initial {loads : Nat → List UInt8 → Bool}
    (initial : (system loads first).initial failover) : Invariant failover := by
  obtain ⟨reign, reached, wins, rfl⟩ := initial
  exact ⟨_, succession_invariant (Reign.invariant_of_reachable reached) wins⟩

theorem invariant_of_reachable {loads : Nat → List UInt8 → Bool}
    (reached : (system loads first).ReachableUnder (fun failover action =>
      failover.Young action ∧ failover.Near action ∧ failover.Aligned action) failover) :
    Invariant failover := by
  refine reached.invariant (fun _ => invariant_of_initial) ?_
  rintro failover action _ ⟨base, follows | ahead⟩ ⟨young, near, aligned⟩ ⟨possible, rfl⟩
  · exact ⟨base, .inl (follows.act loads action young near aligned possible)⟩
  · exact ⟨base, .inr (ahead.act loads action near aligned possible)⟩

theorem Follows.contiguously (follows : Follows base failover) {number : Nat}
    (loaded : failover.inherited + (number + 1) ∈ failover.loaded) :
    failover.inherited + number ∈ failover.loaded := by
  rcases follows.contiguous with ⟨_, nothing⟩ | ⟨start, heard, _, piece⟩
  · rw [nothing] at loaded
    exact absurd loaded List.not_mem_nil
  · rw [piece, List.mem_range'_1] at loaded ⊢
    omega

theorem Follows.applied (follows : Follows base failover) {place position : Nat}
    (loaded : failover.loaded[place]? = some position) :
    failover.link.applied[place]? = failover.link.sent[position]? := by
  have inside := (List.getElem?_eq_some_iff.mp loaded).1
  rcases follows.contiguous with ⟨_, nothing⟩ | ⟨start, _, waits, piece⟩
  · rw [nothing] at inside
    exact absurd inside (Nat.not_lt_zero _)
  have here : start + place = position := by
    rw [piece, List.getElem?_range' inside, Nat.one_mul, Option.some.injEq] at loaded
    exact loaded
  have present := List.getElem?_eq_getElem (follows.counted ▸ inside)
  rcases follows.link.waits with ⟨fresh, _, _⟩ | ⟨other, next, _, _, old⟩
  · rw [waits] at fresh
    cases fresh
  · rw [waits, follows.counted, Option.some.injEq, Nat.add_right_cancel_iff] at next
    rw [present, ← here, next]
    exact (old place _ present).symm

theorem behind_eq {node : Node} {count : Nat} (counter : node.seqNumber = seqOf count)
    (position : Nat) : node.behind (seqOf position) = ((count : Int) - position) % hbMaxSeq := by
  unfold Node.behind
  rw [counter]
  unfold seqOf
  unfold hbMaxSeq
  dsimp only
  split <;> omega

theorem told_to_resynchronise {node : Node} (master : node.iamMaster = true) {count : Nat}
    (counter : node.seqNumber = seqOf count) {slave position : Nat} (addressed : slave ≠ 0)
    (apart : hbHistorySize ≤ ((count : Int) - position) % hbMaxSeq) :
    clusterCatchupSlave node (seqOf position) slave =
      [.send slave (.kill (seqOf position))] := by
  have distance := behind_eq counter position
  unfold clusterCatchupSlave
  rw [distance, master]
  simp only [Bool.not_true, Bool.false_eq_true, ↓reduceIte, apart, peerSend, addressed]

/-- The position that the survivor waits for, as the new master counts. -/
theorem Invariant.waiting (invariant : Invariant failover) {expected : Nat}
    (waits : failover.link.next = some expected) :
    ∃ base, failover.link.master.iamMaster = true ∧
      failover.link.master.seqNumber = seqOf (base + failover.link.sent.length) ∧
        failover.link.slave.seqNumber = seqOf (base + expected) := by
  obtain ⟨base, follows | ahead⟩ := invariant
  · refine ⟨base, follows.link.master, follows.link.counter, ?_⟩
    rcases follows.link.waits with ⟨fresh, _⟩ | ⟨start, next, counter, _⟩
    · rw [waits] at fresh
      cases fresh
    · rw [waits, Option.some.injEq] at next
      rw [next]
      exact counter
  · obtain ⟨other, _, next, counter, _⟩ := ahead.beyond
    rw [waits, Option.some.injEq] at next
    rw [next]
    exact ⟨base, ahead.link.master, ahead.link.counter, counter⟩

/-- No heartbeat is skipped after a failover: unless the survivor was ahead and
hears the new master's heartbeat with the number it waits for, or had heard
nothing and misses the first one, it loads each heartbeat of the new master only
after the one before it, as the new master sent it; and when what it waits for
is not in the new master's ring, it is told to die. -/
theorem failover_in_order (loads : Nat → List UInt8 → Bool) (first : Nat) (failover : Failover)
    (reached : (system loads first).ReachableUnder (fun failover action =>
      failover.Young action ∧ failover.Near action ∧ failover.Aligned action) failover) :
    (∀ number, failover.inherited + (number + 1) ∈ failover.loaded →
      failover.inherited + number ∈ failover.loaded) ∧
    (∀ place position : Nat, failover.loaded[place]? = some position →
      failover.link.applied[place]? = failover.link.sent[position]?) ∧
    ∀ slave expected, slave ≠ 0 → failover.link.next = some expected →
      hbHistorySize ≤ ((failover.link.sent.length : Int) - expected) % hbMaxSeq →
        clusterCatchupSlave failover.link.master failover.link.slave.seqNumber slave =
          [.send slave (.kill failover.link.slave.seqNumber)] := by
  have invariant := invariant_of_reachable reached
  refine ⟨?_, ?_, ?_⟩
  · intro number loaded
    obtain ⟨base, follows | ahead⟩ := invariant
    · exact follows.contiguously loaded
    · rw [ahead.loaded] at loaded
      exact absurd loaded List.not_mem_nil
  · intro place position loaded
    obtain ⟨base, follows | ahead⟩ := invariant
    · exact follows.applied loaded
    · rw [ahead.loaded, List.getElem?_nil] at loaded
      cases loaded
  · intro slave expected addressed waits apart
    obtain ⟨base, master, counter, waiting⟩ := invariant.waiting waits
    rw [waiting]
    refine told_to_resynchronise master counter addressed ?_
    have same : ((base + failover.link.sent.length : Nat) : Int) - (base + expected : Nat) =
        (failover.link.sent.length : Int) - expected := by omega
    rw [same]
    exact apart

/-- A master and two slaves that have just started. -/
def dawn : Reign where
  old := (clusterCheckMaster { clusterInit 7 2 1000 5 150 0 0 with time := 200 }).1
  sent := []
  heir := ⟨clusterInit 7 1 1001 5 150 0 0, 0⟩
  survivor := ⟨clusterInit 7 3 1002 5 150 0 0, 0⟩

/-- Both slaves hear the first heartbeat, and only the survivor the second. -/
def dusk : Reign :=
  let first := dawn.old.nextHeartbeat [0]
  let second := (dawn.old.afterHeartbeat first).nextHeartbeat [1]
  [Reign.Action.heartbeat [0], .heirHears 0 first, .survivorHears 0 first, .heartbeat [1],
    .survivorHears 1 second].foldl (Reign.act fun _ _ => true) dawn

/-- The master falls silent, and the survivor leaves the election to the heir. -/
def night : Reign :=
  [Reign.Action.survivorLives (.clock 500 50), .survivorLives (.meet [⟨1, 1001, 500, true⟩]),
    .survivorLives .check, .heirLives (.clock 500 50)].foldl (Reign.act fun _ _ => true) dusk

theorem night_reachable : (Reign.system (fun _ _ => true) 0).Reachable night := by
  have start : (Reign.system (fun _ _ => true) 0).Reachable dawn :=
    .initial ⟨rfl, rfl, rfl, ⟨rfl, rfl, rfl, rfl⟩, ⟨rfl, rfl, rfl, rfl⟩⟩
  have window : ∀ follower : Follower, follower.heard = 0 → follower.MayHear 0 := by
    intro follower nothing
    unfold Follower.MayHear
    rw [nothing]
    decide
  have second : ∀ follower : Follower, follower.heard = 1 → follower.MayHear 1 := by
    intro follower one
    unfold Follower.MayHear
    rw [one]
    decide
  have sends := Reign.reachable_act start (.heartbeat [0]) trivial
  have heir := Reign.reachable_act sends (.heirHears 0 (dawn.old.nextHeartbeat [0]))
    ⟨rfl, window _ rfl⟩
  have survivor := Reign.reachable_act heir (.survivorHears 0 (dawn.old.nextHeartbeat [0]))
    ⟨rfl, window _ rfl⟩
  have again := Reign.reachable_act survivor (.heartbeat [1]) trivial
  have ahead := Reign.reachable_act again (.survivorHears 1 ((dawn.old.afterHeartbeat
    (dawn.old.nextHeartbeat [0])).nextHeartbeat [1])) ⟨rfl, second _ rfl⟩
  have late := Reign.reachable_act ahead (.survivorLives (.clock 500 50)) rfl
  have meets := Reign.reachable_act late (.survivorLives (.meet [⟨1, 1001, 500, true⟩])) rfl
  have checks := Reign.reachable_act meets (.survivorLives .check) rfl
  exact Reign.reachable_act checks (.heirLives (.clock 500 50)) rfl

/-- The heir takes over with one heartbeat, and the survivor has two. -/
def takeover : Failover := night.succession 0

theorem takeover_reachable (guard : Failover → Action → Prop) :
    (system (fun _ _ => true) 0).ReachableUnder guard takeover :=
  .initial ⟨night, night_reachable, rfl, rfl⟩

theorem failover_in_order_takeover :
    takeover.link.next = some 2 ∧ takeover.link.sent.length = 1 ∧
      clusterCatchupSlave takeover.link.master takeover.link.slave.seqNumber 3 =
        [.send 3 (.kill takeover.link.slave.seqNumber)] :=
  have result := failover_in_order (fun _ _ => true) 0 takeover (takeover_reachable _)
  ⟨rfl, rfl, result.2.2 3 2 (by decide) rfl (by decide)⟩

/-- The new master's first two heartbeats. -/
def succeeding : List Heartbeat :=
  let first := takeover.link.master.nextHeartbeat [2]
  [first, (takeover.link.master.afterHeartbeat first).nextHeartbeat [3]]

/-- The first of them is lost, and the survivor hears the second. -/
def skipping : Failover :=
  [Action.link (.heartbeat [2]), .link (.heartbeat [3]),
    .link (.receive ⟨.heartbeat succeeding[1], 2, 3⟩)].foldl (act fun _ _ => true) takeover

/-- The survivor loads the new master's second heartbeat without the first one,
and goes on. -/
theorem failover_skips :
    ∃ failover : Failover, (system (fun _ _ => true) 0).ReachableUnder
      (fun failover action => failover.Young action ∧ failover.Near action) failover ∧
        failover.link.ended = false ∧
          ¬ ∀ number, failover.inherited + (number + 1) ∈ failover.loaded →
            failover.inherited + number ∈ failover.loaded := by
  have first := (takeover_reachable fun failover action =>
    failover.Young action ∧ failover.Near action).step
      (Action.link (.heartbeat [2])) ⟨trivial, trivial⟩ ⟨⟨rfl, trivial⟩, rfl⟩
  have second := first.step (Action.link (.heartbeat [3])) ⟨trivial, trivial⟩ ⟨⟨rfl, trivial⟩, rfl⟩
  have near : ∀ expected, some 2 = some expected → 3 < expected + hbMaxSeq ∧
      expected < 2 + hbMaxSeq := by
    intro expected same
    cases same
    decide
  have skips := second.step (Action.link (.receive ⟨.heartbeat succeeding[1], 2, 3⟩))
    ⟨Nat.le_add_right 3 _, near⟩ ⟨⟨rfl, List.mem_cons_of_mem _ List.mem_cons_self⟩, rfl⟩
  refine ⟨skipping, skips, rfl, fun contiguous => ?_⟩
  have loaded : skipping.loaded = [2] := rfl
  have inherited : skipping.inherited = 1 := rfl
  rw [loaded, inherited] at contiguous
  exact absurd (contiguous 0 (by decide)) (by decide)

end Failover

end L2tpns.Cluster
