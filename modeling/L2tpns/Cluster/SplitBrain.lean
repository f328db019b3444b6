import L2tpns.Cluster.Heartbeat
import L2tpns.Foundation.Contest
import L2tpns.Foundation.TransitionSystem
import Mathlib.Data.Prod.Lex

/-! # Two masters in one cluster

When a cluster falls apart and comes together again it has several masters.
Each hears the others' heartbeats and compares them with itself: a higher table
version wins, then the earlier start, then the higher address. `Rank` is the
order this compares in. A master that leaves is outranked by the sender at that
moment, and ranks only grow while the table version does, so the masters never
all leave.
-/

namespace L2tpns.Cluster

open Function

/-- Table version, then start time with the earlier one higher, then address. -/
abbrev Rank : Type := Nat ×ₗ Natᵒᵈ ×ₗ Nat

def rankOf (tableVersion basetime address : Nat) : Rank :=
  toLex (tableVersion, toLex (OrderDual.toDual basetime, address))

def Node.rank (node : Node) : Rank :=
  rankOf node.tableVersion node.basetime node.myAddress

theorem rankOf_lt_iff {version basetime address version' basetime' address' : Nat} :
    rankOf version basetime address < rankOf version' basetime' address' ↔
      version < version' ∨ version = version' ∧
        (basetime' < basetime ∨ basetime = basetime' ∧ address < address') := by
  simp only [rankOf, Prod.Lex.toLex_lt_toLex, OrderDual.toDual_lt_toDual,
    EmbeddingLike.apply_eq_iff_eq]

theorem rankOf_le_of_version_le {version version' : Nat} (basetime address : Nat)
    (newer : version ≤ version') :
    rankOf version basetime address ≤ rankOf version' basetime address := by
  rcases newer.lt_or_eq with less | rfl
  · exact (rankOf_lt_iff.mpr (.inl less)).le
  · exact le_rfl

/-- The reason recorded when a process leaves. -/
def exitOf (events : List Event) : Option ExitReason :=
  events.findSome? fun
    | .exit reason => some reason
    | _ => none

/-- The process leaves because of a heartbeat it heard. -/
def leaves (events : List Event) : Bool :=
  (exitOf events).any ExitReason.byHeartbeat

@[simp] theorem exitOf_nil : exitOf [] = none := rfl

@[simp] theorem exitOf_append (first second : List Event) :
    exitOf (first ++ second) = (exitOf first).or (exitOf second) := by
  simp only [exitOf, List.findSome?_append]

@[simp] theorem exitOf_peerSend (peer : Nat) (message : Message) :
    exitOf (peerSend peer message) = none := by
  unfold peerSend
  split <;> rfl

/-- Resending never ends the process. -/
@[simp] theorem exitOf_resendHearts (node : Node) (slave fuel : Nat) (seq : Int) :
    exitOf (resendHearts node slave fuel seq) = none := by
  induction fuel generalizing seq with
  | zero => rfl
  | succ fuel ih =>
      unfold resendHearts
      simp only [apply_ite exitOf, exitOf_nil, exitOf_append, exitOf_peerSend, ih,
        Option.or_none, ite_self]

@[simp] theorem exitOf_clusterCatchupSlave (node : Node) (seq : Int) (slave : Nat) :
    exitOf (clusterCatchupSlave node seq slave) = none := by
  unfold clusterCatchupSlave
  simp only [apply_ite exitOf, exitOf_peerSend, exitOf_resendHearts, ite_self]

theorem leaves_hearMaster_iff (node : Node) (heart : Heart) (addr : Nat) :
    leaves (hearMaster node heart addr) ↔
      heart.basetime ≠ 0 ∧ node.rank < rankOf heart.tableVersion heart.basetime addr := by
  rw [Node.rank, rankOf_lt_iff]
  unfold hearMaster leaves
  by_cases zero : heart.basetime = 0
  · simp [zero]
  rcases Nat.lt_trichotomy node.tableVersion heart.tableVersion with newer | same | older
  · simp [zero, newer, exitOf, ExitReason.byHeartbeat]
  · rcases Nat.lt_trichotomy heart.basetime node.basetime with elder | equal | younger
    · simp [zero, same, elder, exitOf, ExitReason.byHeartbeat]
    · rw [equal] at zero
      by_cases higher : node.myAddress < addr
      · simp [zero, same, equal, higher, exitOf, ExitReason.byHeartbeat]
      · simp [zero, same, equal, higher]
    · simp [zero, same, younger, younger.not_gt, younger.ne]
  · simp [zero, older, older.not_gt, older.ne']

/-- The slot a master resends when it wins a tie. -/
def Node.lastHeart (node : Node) : PastHeart :=
  node.pastHearts ((node.seqNumber - 1).tmod hbHistorySize).toNat

/-- Winning a tie sends the loser the last saved heartbeat and nothing else. -/
theorem mem_resendHearts_last {node : Node} {slave fuel : Nat} {event : Event}
    (numbered : 0 ≤ node.seqNumber ∧ node.seqNumber < hbMaxSeq)
    (sent : event ∈ resendHearts node slave fuel (node.seqNumber - 1)) :
    event = .send slave node.lastHeart.message ∧ node.lastHeart.seq = node.seqNumber - 1 ∧
      0 < node.seqNumber := by
  cases fuel with
  | zero => simp only [resendHearts, List.not_mem_nil] at sent
  | succ fuel =>
      have again : (node.seqNumber - 1 + 1).tmod hbMaxSeq = node.seqNumber := by
        rw [Int.sub_add_cancel, Int.tmod_eq_of_lt numbered.1 numbered.2]
      have stops : ∀ fuel, resendHearts node slave fuel node.seqNumber = [] := by
        intro fuel
        cases fuel <;> simp only [resendHearts, ↓reduceIte]
      have unequal : ¬ node.seqNumber - 1 = node.seqNumber := by omega
      simp only [resendHearts, unequal, ↓reduceIte, again, stops, List.append_nil] at sent
      split at sent
      · exact absurd sent List.not_mem_nil
      · rename_i inside
        split at sent
        · exact absurd sent List.not_mem_nil
        · rename_i matching
          unfold peerSend at sent
          split at sent
          · exact absurd sent List.not_mem_nil
          · refine ⟨List.mem_singleton.mp sent, (not_not.mp matching).symm, ?_⟩
            by_contra first
            have zero : node.seqNumber = 0 := by omega
            exact inside (by rw [zero]; decide)

/-- What a master sends on hearing another one: only the last saved heartbeat,
to a sender that ties with it and has no higher address. -/
theorem mem_hearMaster_send {node : Node} {heart : Heart} {addr peer : Nat} {message : Message}
    (master : node.iamMaster = true) (numbered : 0 ≤ node.seqNumber ∧ node.seqNumber < hbMaxSeq)
    (sent : .send peer message ∈ hearMaster node heart addr) :
    peer = addr ∧ message = node.lastHeart.message ∧ node.lastHeart.seq = node.seqNumber - 1 ∧
      0 < node.seqNumber ∧ node.basetime = heart.basetime ∧ ¬ node.myAddress < addr := by
  unfold hearMaster at sent
  split_ifs at sent with zero newer older elder younger higher
  · exact absurd sent List.not_mem_nil
  · simp only [List.mem_singleton, reduceCtorEq] at sent
  · exact absurd sent List.not_mem_nil
  · simp only [List.mem_singleton, reduceCtorEq] at sent
  · exact absurd sent List.not_mem_nil
  · simp only [List.mem_singleton, reduceCtorEq] at sent
  · have tie : node.basetime = heart.basetime := by omega
    have near : ¬ node.behind (node.seqNumber - 1) ≥ hbHistorySize := by
      have one : node.behind (node.seqNumber - 1) = 1 := by simp [Node.behind]
      rw [one]
      decide
    simp only [clusterCatchupSlave, master, Bool.not_true, Bool.false_eq_true, ↓reduceIte,
      near] at sent
    obtain ⟨same, matching, positive⟩ := mem_resendHearts_last numbered sent
    injection same with samePeer sameMessage
    exact ⟨samePeer, sameMessage, matching, positive, tie, higher⟩

/-- A catch-up only sends to the slave that asked, and asks nothing itself. -/
theorem mem_clusterCatchupSlave {node : Node} {seq : Int} {slave : Nat} {event : Event}
    (sent : event ∈ clusterCatchupSlave node seq slave) :
    ∃ message, event = .send slave message ∧ ∀ number, message ≠ .lastseen number := by
  have unicast : ∀ {message : Message}, (∀ number, message ≠ .lastseen number) →
      event ∈ peerSend slave message →
        ∃ message, event = .send slave message ∧ ∀ number, message ≠ .lastseen number := by
    intro message other member
    unfold peerSend at member
    split at member
    · exact absurd member List.not_mem_nil
    · exact ⟨message, List.mem_singleton.mp member, other⟩
  have resent : ∀ fuel seq, event ∈ resendHearts node slave fuel seq →
      ∃ message, event = .send slave message ∧ ∀ number, message ≠ .lastseen number := by
    intro fuel
    induction fuel with
    | zero => exact fun _ member => absurd member List.not_mem_nil
    | succ fuel ih =>
        intro seq member
        rw [resendHearts_succ] at member
        split at member
        · exact absurd member List.not_mem_nil
        split at member
        · exact absurd member List.not_mem_nil
        split at member
        · exact absurd member List.not_mem_nil
        rcases List.mem_append.mp member with first | rest
        · refine unicast ?_ first
          unfold PastHeart.message
          cases (node.pastHearts (seq.tmod hbHistorySize).toNat).data <;>
            simp only [Option.elim_none, Option.elim_some, ne_eq, reduceCtorEq, not_false_eq_true,
              implies_true]
        · exact ih _ rest
  unfold clusterCatchupSlave at sent
  split at sent
  · exact unicast (by simp only [ne_eq, reduceCtorEq, not_false_eq_true, implies_true]) sent
  split at sent
  · exact unicast (by simp only [ne_eq, reduceCtorEq, not_false_eq_true, implies_true]) sent
  · exact resent _ _ sent

theorem processcluster_fst_of_master (loads : Nat → List UInt8 → Bool) {node : Node}
    (master : node.iamMaster = true) (message : Message) (addr : Nat) :
    (processcluster loads node message addr).1 = node := by
  cases message <;>
    simp only [processcluster, clusterProcessHeartbeat, clusterSetMaster, master, ↓reduceIte,
      apply_ite Prod.fst, ite_self]

theorem processcluster_heartbeat_of_master (loads : Nat → List UInt8 → Bool) {node : Node}
    (master : node.iamMaster = true) (heartbeat : Heartbeat) (addr : Nat) :
    (processcluster loads node (.heartbeat heartbeat) addr).2 = [] ∨
      addr ≠ node.myAddress ∧
        (processcluster loads node (.heartbeat heartbeat) addr).2 =
          hearMaster node heartbeat.head addr := by
  by_cases own : addr = node.myAddress
  · simp only [processcluster, own, ↓reduceIte, true_or]
  · simp only [processcluster, own, ↓reduceIte, clusterProcessHeartbeat, master, ne_eq,
      not_false_eq_true, true_and]
    split_ifs
    · exact .inl rfl
    · exact .inl rfl
    · exact .inr rfl
    · exact .inl rfl

/-- Masters of one cluster: what each process keeps for its whole life. -/
structure Masters (Id : Type) where
  address : Id → Nat
  basetime : Id → Nat
  bindAddress : Nat
  distinct : Function.Injective address
  started : ∀ who, 0 < basetime who
  clock : ∀ who, basetime who < 2 ^ 32

structure Datagram (Id : Type) where
  source : Id
  dest : Option Nat
  message : Message

/-- The datagrams that the events of `source` put on the network. -/
def datagramsOf {Id : Type} (source : Id) (events : List Event) : List (Datagram Id) :=
  events.filterMap fun
    | .send peer message => some ⟨source, some peer, message⟩
    | .sendAll message => some ⟨source, none, message⟩
    | _ => none

/-- The processes, why each left, and every datagram sent so far. -/
structure Masters.State (Id : Type) where
  node : Id → Node
  gone : Id → Option ExitReason
  net : List (Datagram Id)

/-- Steps of the masters. Any datagram ever sent may arrive at any time and any
number of times, or never. A slave asks for a resend from an address of its own. -/
inductive Masters.Action (Id : Type) where
  | change (who : Id) (numChanges : Nat)
  | heartbeat (who : Id) (elements : List UInt8)
  | receive (who : Id) (datagram : Datagram Id)
  | lastseen (who : Id) (seq : Int) (slave : Nat)

namespace Masters

variable {Id : Type} [DecidableEq Id] (masters : Masters Id) (loads : Nat → List UInt8 → Bool)

def State.put (state : State Id) (who : Id) (result : Node × List Event) : State Id where
  node := Function.update state.node who result.1
  gone := Function.update state.gone who (exitOf result.2)
  net := state.net ++ datagramsOf who result.2

def Action.actor : Action Id → Id
  | .change who _ | .heartbeat who _ | .receive who _ | .lastseen who _ _ => who

/-- A process that left does nothing, and nobody receives what was not sent to it. -/
def enabled (state : State Id) (action : Action Id) : Prop :=
  state.gone action.actor = none ∧
    match action with
    | .receive who datagram => datagram ∈ state.net ∧
        (datagram.dest = none ∨ datagram.dest = some (masters.address who))
    | .lastseen _ _ slave => slave ∉ Set.range masters.address
    | _ => True

def act (state : State Id) : Action Id → State Id
  | .change who numChanges =>
      state.put who ({ state.node who with numChanges := numChanges }, [])
  | .heartbeat who elements => state.put who (clusterHeartbeat (state.node who) elements)
  | .receive who datagram =>
      state.put who
        (processcluster loads (state.node who) datagram.message (masters.address datagram.source))
  | .lastseen who seq slave =>
      state.put who (processcluster loads (state.node who) (.lastseen seq) slave)

/-- `node` is a state of the process `who`, as a master of the cluster. -/
structure Is (who : Id) (node : Node) : Prop where
  address : node.myAddress = masters.address who
  basetime : node.basetime = masters.basetime who
  bindAddress : node.bindAddress = masters.bindAddress
  master : node.iamMaster = true

/-- The state in which `who` can start to be master: the last heartbeat it saved
has a table version no higher than its own. -/
structure Holds (who : Id) (node : Node) : Prop extends masters.Is who node where
  numbered : 0 ≤ node.seqNumber ∧ node.seqNumber < hbMaxSeq
  saved : 0 < node.seqNumber → ∀ heartbeat, node.lastHeart = ⟨node.seqNumber - 1, some heartbeat⟩ →
    heartbeat.head.tableVersion ≤ node.tableVersion

def system : Foundation.TransitionSystem (State Id) (Action Id) where
  initial state := (∀ who, masters.Holds who (state.node who)) ∧
    (∀ who, state.gone who = none) ∧ state.net = []
  step state action next := masters.enabled state action ∧ next = masters.act loads state action

/-- No step lets a table version fall. -/
def versionsGrow (state : State Id) (action : Action Id) : Prop :=
  ∀ who, (state.node who).tableVersion ≤ ((masters.act loads state action).node who).tableVersion

/-- What the network may say about its sender: no higher table version than the
sender has, and the sender's own start time, except in the copy of an older
master's heartbeat that the winner of a tie sends to the loser. -/
def Vouched (state : State Id) (datagram : Datagram Id) : Prop :=
  match datagram.message with
  | .heartbeat heartbeat =>
      ∀ who, datagram.dest = none ∨ datagram.dest = some (masters.address who) →
        heartbeat.head.tableVersion ≤ (state.node datagram.source).tableVersion ∧
          (heartbeat.head.basetime = masters.basetime datagram.source ∨
            masters.basetime who = masters.basetime datagram.source ∧
              masters.address who < masters.address datagram.source)
  | .lastseen _ => False
  | _ => True

structure Invariant (state : State Id) : Prop where
  holds : ∀ who, masters.Holds who (state.node who)
  vouched : ∀ datagram ∈ state.net, masters.Vouched state datagram
  outranked : ∀ who reason, state.gone who = some reason → reason.byHeartbeat →
    ∃ other, (state.node who).rank < (state.node other).rank

variable {masters} {loads}

variable {who : Id} {node : Node} {state : State Id}

omit [DecidableEq Id] in
theorem Is.rank_eq (is_who : masters.Is who node) :
    node.rank = rankOf node.tableVersion (masters.basetime who) (masters.address who) := by
  rw [Node.rank, is_who.basetime, is_who.address]

omit [DecidableEq Id] in
theorem Vouched.mono {next : State Id} {datagram : Datagram Id}
    (vouched : masters.Vouched state datagram)
    (grows : ∀ who, (state.node who).tableVersion ≤ (next.node who).tableVersion) :
    masters.Vouched next datagram := by
  unfold Vouched at vouched ⊢
  cases sort : datagram.message with
  | heartbeat heartbeat =>
      rw [sort] at vouched
      intro who addressed
      exact ⟨(vouched who addressed).1.trans (grows _), (vouched who addressed).2⟩
  | lastseen seq =>
      rw [sort] at vouched
      exact vouched
  | kill seq | master address | empty => trivial

omit [DecidableEq Id] in
theorem mem_datagramsOf {source : Id} {events : List Event} {datagram : Datagram Id}
    (sent : datagram ∈ datagramsOf source events) :
    datagram.source = source ∧
      ((∃ peer, datagram.dest = some peer ∧ .send peer datagram.message ∈ events) ∨
        datagram.dest = none ∧ .sendAll datagram.message ∈ events) := by
  obtain ⟨event, member, becomes⟩ := List.mem_filterMap.mp sent
  cases event with
  | send peer message =>
      cases becomes
      exact ⟨rfl, .inl ⟨peer, rfl, member⟩⟩
  | sendAll message =>
      cases becomes
      exact ⟨rfl, .inr ⟨rfl, member⟩⟩
  | load heartbeat | advertiseRoutes | withdrawRoutes | garp | exit reason => cases becomes

/-- One process moves: it stays the same process with a version no lower, it is
vouched for, and if it leaves it is outranked. -/
theorem Invariant.put (invariant : masters.Invariant state) (who : Id)
    (result : Node × List Event) (keeps : masters.Holds who result.1)
    (grows : (state.node who).tableVersion ≤ result.1.tableVersion)
    (vouches : ∀ datagram ∈ datagramsOf who result.2,
      masters.Vouched (state.put who result) datagram)
    (leaving : leaves result.2 → ∃ other, result.1.rank < (state.node other).rank) :
    masters.Invariant (state.put who result) := by
  have versions : ∀ other,
      (state.node other).tableVersion ≤ ((state.put who result).node other).tableVersion := by
    intro other
    by_cases same : other = who
    · subst same
      simpa only [State.put, update_self] using grows
    · simp only [State.put, update_of_ne same, le_refl]
  have holds : ∀ other, masters.Holds other ((state.put who result).node other) := by
    intro other
    by_cases same : other = who
    · subst same
      simpa only [State.put, update_self] using keeps
    · simpa only [State.put, update_of_ne same] using invariant.holds other
  have ranks : ∀ other, (state.node other).rank ≤ ((state.put who result).node other).rank := by
    intro other
    rw [(invariant.holds other).rank_eq, (holds other).rank_eq]
    exact rankOf_le_of_version_le _ _ (versions other)
  refine ⟨holds, ?_, ?_⟩
  · intro datagram member
    rcases List.mem_append.mp member with old | new
    · exact (invariant.vouched datagram old).mono versions
    · exact vouches datagram new
  · intro other reason gone heard
    by_cases same : other = who
    · subst same
      simp only [State.put, update_self] at gone
      obtain ⟨above, higher⟩ := leaving (by simp only [leaves, gone, Option.any_some, heard])
      refine ⟨above, lt_of_lt_of_le ?_ (ranks above)⟩
      simpa only [State.put, update_self] using higher
    · simp only [State.put, update_of_ne same] at gone
      obtain ⟨above, higher⟩ := invariant.outranked other reason gone heard
      refine ⟨above, lt_of_lt_of_le ?_ (ranks above)⟩
      simpa only [State.put, update_of_ne same] using higher

theorem Invariant.change (invariant : masters.Invariant state) (who : Id) (numChanges : Nat) :
    masters.Invariant (state.put who ({ state.node who with numChanges := numChanges }, [])) := by
  have holds := invariant.holds who
  have keeps : masters.Holds who { state.node who with numChanges := numChanges } :=
    ⟨⟨holds.address, holds.basetime, holds.bindAddress, holds.master⟩, holds.numbered, holds.saved⟩
  refine invariant.put who _ keeps le_rfl ?_ ?_
  · intro datagram member
    exact absurd member List.not_mem_nil
  · intro leaving
    exact absurd leaving Bool.false_ne_true

omit [DecidableEq Id] in
theorem Holds.countChanges (holds : masters.Holds who node)
    (grows : node.tableVersion ≤ node.countChanges.tableVersion) :
    masters.Holds who node.countChanges :=
  ⟨⟨holds.address, holds.basetime, holds.bindAddress, holds.master⟩, holds.numbered,
    fun positive heartbeat last => (holds.saved positive heartbeat last).trans grows⟩

omit [DecidableEq Id] in
/-- A master that has sent a heartbeat: the last one saved is its own. -/
theorem Holds.afterHeartbeat (holds : masters.Holds who node) (elements : List UInt8) :
    masters.Holds who (node.afterHeartbeat (node.nextHeartbeat elements)) := by
  obtain ⟨nonneg, below⟩ := holds.numbered
  have counts : 0 ≤ node.seqNumber + 1 := by omega
  refine ⟨⟨holds.address, holds.basetime, holds.bindAddress, holds.master⟩, ?_, ?_⟩
  · exact ⟨Int.tmod_nonneg _ counts, Int.tmod_lt_of_pos _ (by decide)⟩
  · intro positive heartbeat last
    change 0 < (node.seqNumber + 1).tmod hbMaxSeq at positive
    have next : (node.seqNumber + 1).tmod hbMaxSeq = node.seqNumber + 1 := by
      refine Int.tmod_eq_of_lt counts (lt_of_le_of_ne (by omega) fun wraps => ?_)
      rw [wraps, Int.tmod_self] at positive
      exact absurd positive (lt_irrefl 0)
    simp only [Node.lastHeart, Node.afterHeartbeat, Node.saveHeart, next, Int.add_sub_cancel,
      update_self, PastHeart.mk.injEq, Option.some.injEq, true_and] at last
    subst last
    exact le_rfl

theorem Invariant.heartbeat (invariant : masters.Invariant state) (who : Id) (elements : List UInt8)
    (grows : (state.node who).tableVersion ≤
      (clusterHeartbeat (state.node who) elements).1.tableVersion) :
    masters.Invariant (state.put who (clusterHeartbeat (state.node who) elements)) := by
  have holds := invariant.holds who
  rcases Nat.lt_or_ge maxHeartSize ((state.node who).nextHeartbeat elements).size with
    oversize | fits
  · rw [clusterHeartbeat_of_oversize holds.master oversize] at grows ⊢
    refine invariant.put who _ (holds.countChanges grows) grows ?_ ?_
    · intro datagram member
      exact absurd member List.not_mem_nil
    · intro leaving
      exact absurd leaving Bool.false_ne_true
  · rw [clusterHeartbeat_of_fits holds.master fits] at grows ⊢
    refine invariant.put who _ (holds.afterHeartbeat elements) grows ?_ ?_
    · intro datagram member
      obtain ⟨source, ⟨peer, _, sent⟩ | ⟨_, sent⟩⟩ := mem_datagramsOf member
      · simp only [List.mem_singleton, reduceCtorEq] at sent
      · simp only [List.mem_singleton, Event.sendAll.injEq] at sent
        unfold Vouched
        rw [sent]
        intro other _
        rw [source]
        simp only [State.put, update_self]
        refine ⟨le_rfl, .inl ?_⟩
        change (state.node who).basetime % 2 ^ 32 = masters.basetime who
        rw [holds.basetime, Nat.mod_eq_of_lt (masters.clock who)]
    · intro leaving
      exact absurd leaving Bool.false_ne_true

/-- Hearing a heartbeat that is vouched for. -/
theorem Invariant.hear (invariant : masters.Invariant state) {source : Id}
    {heartbeat : Heartbeat} (other : masters.address source ≠ (state.node who).myAddress)
    (older : heartbeat.head.tableVersion ≤ (state.node source).tableVersion)
    (origin : heartbeat.head.basetime = masters.basetime source ∨
      masters.basetime who = masters.basetime source ∧
        masters.address who < masters.address source) :
    masters.Invariant (state.put who (state.node who,
      hearMaster (state.node who) heartbeat.head (masters.address source))) := by
  have holds := invariant.holds who
  rw [holds.address] at other
  refine invariant.put who _ holds le_rfl ?_ ?_
  · intro datagram member
    obtain ⟨from_who, ⟨peer, dest, sent⟩ | ⟨_, sent⟩⟩ := mem_datagramsOf member
    · obtain ⟨rfl, message, matching, positive, tie, higher⟩ :=
        mem_hearMaster_send holds.master holds.numbered sent
      rw [holds.basetime] at tie
      rw [holds.address] at higher
      -- the sender of a copied heartbeat would have had the higher address
      have own : heartbeat.head.basetime = masters.basetime source :=
        origin.resolve_right fun copied => higher copied.2
      unfold Vouched
      rw [message]
      unfold PastHeart.message
      cases saved : (state.node who).lastHeart.data with
      | none => trivial
      | some last =>
          intro recipient addressed
          have recipient_eq : recipient = source := by
            rw [dest] at addressed
            simp only [reduceCtorEq, Option.some.injEq, false_or] at addressed
            exact (masters.distinct addressed).symm
          subst recipient_eq
          rw [from_who]
          refine ⟨?_, .inr ⟨own.symm.trans tie.symm, by omega⟩⟩
          simp only [State.put, update_self]
          refine holds.saved positive last ?_
          rw [← saved, ← matching]
    · unfold hearMaster at sent
      split_ifs at sent
      all_goals try simp only [List.mem_singleton, List.not_mem_nil, reduceCtorEq] at sent
      obtain ⟨message, isSend, _⟩ := mem_clusterCatchupSlave sent
      cases isSend
  · intro leaving
    obtain ⟨_, below⟩ := (leaves_hearMaster_iff _ _ _).mp leaving
    refine ⟨source, ?_⟩
    rw [holds.rank_eq, rankOf_lt_iff] at below
    rw [holds.rank_eq, (invariant.holds source).rank_eq, rankOf_lt_iff]
    omega

theorem Invariant.receive {state : State Id} (invariant : masters.Invariant state) (who : Id)
    {datagram : Datagram Id} (sent : datagram ∈ state.net)
    (addressed : datagram.dest = none ∨ datagram.dest = some (masters.address who)) :
    masters.Invariant (state.put who (processcluster loads (state.node who) datagram.message
      (masters.address datagram.source))) := by
  have holds := invariant.holds who
  have vouched := invariant.vouched datagram sent
  have silent : ∀ {result : Node × List Event}, result = (state.node who, []) →
      masters.Invariant (state.put who result) := by
    rintro _ rfl
    refine invariant.put who _ holds le_rfl ?_ fun leaving => absurd leaving Bool.false_ne_true
    exact fun _ member => absurd member List.not_mem_nil
  have same := processcluster_fst_of_master loads holds.master datagram.message
    (masters.address datagram.source)
  unfold Vouched at vouched
  cases sort : datagram.message with
  | heartbeat heartbeat =>
      rw [sort] at vouched same
      rcases processcluster_heartbeat_of_master loads holds.master heartbeat
        (masters.address datagram.source) with quiet | ⟨other, hears⟩
      · exact silent (Prod.ext same quiet)
      · rw [show processcluster loads (state.node who) (.heartbeat heartbeat)
          (masters.address datagram.source) = (state.node who, _) from Prod.ext same hears]
        exact invariant.hear other (vouched who addressed).1 (vouched who addressed).2
  | lastseen seq =>
      rw [sort] at vouched
      exact vouched.elim
  | kill seq =>
      refine silent ?_
      simp only [processcluster, holds.master, ↓reduceIte, ite_self]
  | master address =>
      refine silent ?_
      simp only [processcluster, clusterSetMaster, holds.master, ↓reduceIte, ite_self]
  | empty =>
      refine silent ?_
      simp only [processcluster, ite_self]

theorem Invariant.lastseen (invariant : masters.Invariant state) (who : Id)
    (seq : Int) {slave : Nat} (outside : slave ∉ Set.range masters.address) :
    masters.Invariant
      (state.put who (processcluster loads (state.node who) (.lastseen seq) slave)) := by
  have holds := invariant.holds who
  have answer : processcluster loads (state.node who) (.lastseen seq) slave =
      (state.node who, clusterCatchupSlave (state.node who) seq slave) := by
    have other : slave ≠ (state.node who).myAddress := by
      rintro rfl
      exact outside ⟨who, holds.address.symm⟩
    simp only [processcluster, other, ↓reduceIte]
  rw [answer]
  refine invariant.put who _ holds le_rfl ?_ ?_
  · intro datagram member
    obtain ⟨_, ⟨peer, dest, sent⟩ | ⟨_, sent⟩⟩ := mem_datagramsOf member
    · obtain ⟨message, isSend, asks⟩ := mem_clusterCatchupSlave sent
      injection isSend with samePeer sameMessage
      unfold Vouched
      cases sort : datagram.message with
      | heartbeat heartbeat =>
          intro recipient addressed
          rw [dest, samePeer] at addressed
          simp only [reduceCtorEq, Option.some.injEq, false_or] at addressed
          exact absurd ⟨recipient, addressed.symm⟩ outside
      | lastseen number => exact asks number (sameMessage.symm.trans sort)
      | kill number | master address | empty => trivial
    · obtain ⟨message, isSend, _⟩ := mem_clusterCatchupSlave sent
      cases isSend
  · intro leaving
    simp only [leaves, exitOf_clusterCatchupSlave, Option.any_none, Bool.false_eq_true] at leaving

theorem Invariant.act (invariant : masters.Invariant state)
    (action : Action Id) (grows : masters.versionsGrow loads state action)
    (possible : masters.enabled state action) :
    masters.Invariant (masters.act loads state action) := by
  cases action with
  | change who numChanges => exact invariant.change who numChanges
  | heartbeat who elements =>
      refine invariant.heartbeat who elements ?_
      have growth := grows who
      simpa only [Masters.act, State.put, update_self] using growth
  | receive who datagram => exact invariant.receive who possible.2.1 possible.2.2
  | lastseen who seq slave => exact invariant.lastseen who seq possible.2

theorem invariant_of_reachable
    (reached : (masters.system loads).ReachableUnder (masters.versionsGrow loads) state) :
    masters.Invariant state := by
  refine reached.invariant ?_ ?_
  · rintro state ⟨holds, present, quiet⟩
    refine ⟨holds, ?_, ?_⟩
    · intro datagram member
      rw [quiet] at member
      exact absurd member List.not_mem_nil
    · intro who reason gone
      rw [present who] at gone
      cases gone
  · rintro state action _ invariant grows ⟨possible, rfl⟩
    exact invariant.act action grows possible

/-- `who` left because of a heartbeat. -/
def State.left (state : State Id) (who : Id) : Bool :=
  (state.gone who).any ExitReason.byHeartbeat

omit [DecidableEq Id] in
theorem Invariant.exists_present [Finite Id] [Nonempty Id]
    (invariant : masters.Invariant state) : ∃ who, ¬ state.left who := by
  refine Foundation.exists_standing (fun who => (state.node who).rank) _ fun who left => ?_
  cases gone : state.gone who with
  | none =>
      rw [State.left, gone] at left
      exact absurd left Bool.false_ne_true
  | some reason =>
      rw [State.left, gone] at left
      exact invariant.outranked who reason gone left

theorem left_act {action : Action Id} (possible : masters.enabled state action)
    (left : state.left who) : (masters.act loads state action).left who := by
  have other : who ≠ action.actor := by
    rintro rfl
    rw [State.left, possible.1] at left
    exact absurd left Bool.false_ne_true
  have frame : ∀ result, (state.put action.actor result).left who = state.left who := by
    intro result
    simp only [State.left, State.put, update_of_ne other]
  cases action <;> exact (frame _).trans left

variable (masters) (loads)

/-- An infinite run of the masters; idling stands for the end of a finite one. -/
structure Run (run : Nat → State Id) : Prop where
  start : (masters.system loads).initial (run 0)
  moves : ∀ moment, run (moment + 1) = run moment ∨
    ∃ action, masters.enabled (run moment) action ∧
      masters.versionsGrow loads (run moment) action ∧
        run (moment + 1) = masters.act loads (run moment) action

variable {masters} {loads}

theorem Run.reachable {run : Nat → State Id} (runs : masters.Run loads run) (moment : Nat) :
    (masters.system loads).ReachableUnder (masters.versionsGrow loads) (run moment) := by
  induction moment with
  | zero => exact .initial runs.start
  | succ moment ih =>
      rcases runs.moves moment with idle | ⟨action, possible, grows, moved⟩
      · rw [idle]
        exact ih
      · exact .step action ih grows ⟨possible, moved⟩

theorem Run.exists_never_leaves [Finite Id] [Nonempty Id] {run : Nat → State Id}
    (runs : masters.Run loads run) : ∃ who, ∀ moment, ¬ (run moment).left who := by
  refine Foundation.exists_never_withdrawn (fun moment who => (run moment).left who) ?_ ?_
  · intro moment who left
    rcases runs.moves moment with idle | ⟨action, possible, _, moved⟩
    · rw [idle]
      exact left
    · rw [moved]
      exact left_act possible left
  · exact fun moment => (invariant_of_reachable (runs.reachable moment)).exists_present

end Masters

/-- `heartbeat` was sent by this process, and its table version is the present one. -/
def Node.Current (node : Node) (heartbeat : Heartbeat) : Prop :=
  ∃ sender elements, sender.bindAddress = node.bindAddress ∧ sender.basetime = node.basetime ∧
    .sendAll (.heartbeat heartbeat) ∈ (clusterHeartbeat sender elements).2 ∧
      heartbeat.head.tableVersion = node.tableVersion

/-- What a master puts on the network is its next heartbeat, if that fits. -/
theorem mem_clusterHeartbeat {node : Node} {elements : List UInt8} {heartbeat : Heartbeat}
    (sent : .sendAll (.heartbeat heartbeat) ∈ (clusterHeartbeat node elements).2) :
    heartbeat = node.nextHeartbeat elements ∧ heartbeat.size ≤ maxHeartSize := by
  cases master : node.iamMaster with
  | false => simp [clusterHeartbeat, master] at sent
  | true =>
      rcases Nat.lt_or_ge maxHeartSize (node.nextHeartbeat elements).size with oversize | fits
      · rw [clusterHeartbeat_of_oversize master oversize] at sent
        simp only [List.mem_singleton, reduceCtorEq] at sent
      · rw [clusterHeartbeat_of_fits master fits] at sent
        simp only [List.mem_singleton, Event.sendAll.injEq, Message.heartbeat.injEq] at sent
        rw [sent]
        exact ⟨rfl, fits⟩

/-- A peer the election does not skip, and which it expects to win. -/
def Peer.Beats (peer : Peer) (basetime myAddress time timeout : Nat) : Prop :=
  ¬ (peer.timestamp + timeout) % 2 ^ 32 < time ∧ peer.basetime ≠ 0 ∧
    (peer.basetime < basetime ∨ peer.basetime = basetime ∧ myAddress < peer.peer)

theorem election_eq_none_iff (basetime myAddress time timeout : Nat) (peers : List Peer)
    (havePeers : Nat) :
    election basetime myAddress time timeout peers havePeers = none ↔
      ∃ peer ∈ peers, peer.Beats basetime myAddress time timeout := by
  induction peers generalizing havePeers with
  | nil => simp only [election, reduceCtorEq, List.not_mem_nil, false_and, exists_false]
  | cons peer peers ih =>
      simp only [List.mem_cons, exists_eq_or_imp]
      unfold election
      split_ifs with stale shutdown elder higher
      all_goals simp only [ih, true_iff]
      all_goals simp_all [Peer.Beats]

namespace Masters

variable {Id : Type} {masters : Masters Id} (loads : Nat → List UInt8 → Bool)

theorem Is.leaves_iff {first second : Id} (different : first ≠ second) {node other : Node}
    (is_first : masters.Is first node) (is_second : masters.Is second other)
    {heartbeat : Heartbeat} (current : other.Current heartbeat) :
    leaves (processcluster loads node (.heartbeat heartbeat) other.myAddress).2 ↔
      node.rank < other.rank := by
  obtain ⟨sender, elements, bind, started, sent, version⟩ := current
  obtain ⟨rfl, fits⟩ := mem_clusterHeartbeat sent
  have addresses : other.myAddress ≠ node.myAddress := by
    rw [is_first.address, is_second.address]
    exact fun same => different (masters.distinct same).symm
  have basetime : (sender.nextHeartbeat elements).head.basetime = other.basetime := by
    change sender.basetime % 2 ^ 32 = other.basetime
    rw [started, is_second.basetime, Nat.mod_eq_of_lt (masters.clock second)]
  have cluster : (sender.nextHeartbeat elements).head.clusterid = node.bindAddress := by
    change sender.bindAddress = node.bindAddress
    rw [bind, is_first.bindAddress, is_second.bindAddress]
  have supported : ¬ ((sender.nextHeartbeat elements).version < 5 ∨
      (sender.nextHeartbeat elements).version > hbVersion) := by
    change ¬ (hbVersion < 5 ∨ hbVersion > hbVersion)
    decide
  have hears : (processcluster loads node (.heartbeat (sender.nextHeartbeat elements))
      other.myAddress).2 = hearMaster node (sender.nextHeartbeat elements).head
        other.myAddress := by
    simp only [processcluster, addresses, clusterProcessHeartbeat, supported, Nat.not_lt.mpr fits,
      cluster, is_first.master, ↓reduceIte, gt_iff_lt, ne_eq, not_true_eq_false]
  rw [hears, leaves_hearMaster_iff, basetime, version, is_second.basetime, is_second.address,
    is_second.rank_eq]
  exact and_iff_right (masters.started second).ne'

/-- Among masters of the same table version the higher rank is what the election
compares, whatever the other peers are. -/
theorem Is.rank_lt_iff_beats {first second : Id} {node other : Node}
    (is_first : masters.Is first node) (is_second : masters.Is second other)
    (same : node.tableVersion = other.tableVersion) {peer : Peer} {time timeout : Nat}
    (address : peer.peer = other.myAddress) (basetime : peer.basetime = other.basetime)
    (fresh : ¬ (peer.timestamp + timeout) % 2 ^ 32 < time) :
    node.rank < other.rank ↔ peer.Beats node.basetime node.myAddress time timeout := by
  have started : peer.basetime ≠ 0 := by
    rw [basetime, is_second.basetime]
    exact (masters.started second).ne'
  rw [Peer.Beats, is_first.rank_eq, is_second.rank_eq, rankOf_lt_iff, same, address, basetime,
    is_first.basetime, is_first.address, is_second.basetime, is_second.address]
  rw [basetime, is_second.basetime] at started
  simp only [lt_self_iff_false, true_and, false_or, fresh, not_false_eq_true, started, ne_eq]
  constructor
  · rintro (elder | ⟨equal, higher⟩)
    · exact .inl elder
    · exact .inr ⟨equal.symm, higher⟩
  · rintro (elder | ⟨equal, higher⟩)
    · exact .inl elder
    · exact .inr ⟨equal.symm, higher⟩

/-- Split brain resolution. However heartbeats are delayed, lost, repeated or
reordered, one master never leaves because of a heartbeat. Of two masters that
hear each other's current heartbeats exactly one leaves, and between equal table
versions it is the one that the election expects to lose against the other. -/
theorem splitBrain_resolved [DecidableEq Id] [Finite Id] [Nonempty Id] (masters : Masters Id)
    (loads : Nat → List UInt8 → Bool) :
    (∀ run : Nat → State Id, masters.Run loads run →
      ∃ who, ∀ moment, ¬ (run moment).left who) ∧
    ∀ first second, first ≠ second → ∀ node other, masters.Is first node →
      masters.Is second other → ∀ heard answered, node.Current answered → other.Current heard →
        Xor (leaves (processcluster loads node (.heartbeat heard) other.myAddress).2)
            (leaves (processcluster loads other (.heartbeat answered) node.myAddress).2) ∧
          (node.tableVersion = other.tableVersion → ∀ peer : Peer, ∀ time timeout,
            peer.peer = other.myAddress → peer.basetime = other.basetime →
              ¬ (peer.timestamp + timeout) % 2 ^ 32 < time →
                (leaves (processcluster loads node (.heartbeat heard) other.myAddress).2 ↔
                  election node.basetime node.myAddress time timeout [peer] 0 = none)) := by
  refine ⟨fun run runs => runs.exists_never_leaves, ?_⟩
  intro first second different node other is_first is_second heard answered current_node
    current_other
  rw [is_first.leaves_iff loads different is_second current_other,
    is_second.leaves_iff loads different.symm is_first current_node]
  constructor
  · have unequal : node.rank ≠ other.rank := by
      rw [is_first.rank_eq, is_second.rank_eq]
      intro same
      simp only [rankOf, EmbeddingLike.apply_eq_iff_eq, Prod.mk.injEq] at same
      exact different (masters.distinct same.2.2)
    rcases lt_or_gt_of_ne unequal with below | above
    · exact .inl ⟨below, below.asymm⟩
    · exact .inr ⟨above, above.asymm⟩
  · intro same peer time timeout address basetime fresh
    rw [election_eq_none_iff, is_first.rank_lt_iff_beats is_second same address basetime fresh]
    simp only [List.mem_singleton, exists_eq_left]

/-- Two processes started at one moment, at addresses 1 and 2. -/
def pair : Masters Bool where
  address who := if who then 2 else 1
  basetime _ := 1000
  bindAddress := 7
  distinct := by decide
  started := by decide
  clock := by decide

/-- Both hold an election after hearing nobody, and both win. -/
def pairState : State Bool where
  node who := (clusterCheckMaster
    { clusterInit 7 (pair.address who) 1000 5 150 0 0 with time := 200 }).1
  gone _ := none
  net := []

/-- The process at address 2 sends one heartbeat, which the other one receives. -/
def pairRun (loads : Nat → List UInt8 → Bool) : Nat → State Bool
  | 0 => pairState
  | 1 => pair.act loads pairState (.heartbeat true [])
  | _ + 2 => pair.act loads (pair.act loads pairState (.heartbeat true []))
      (.receive false ⟨true, none, .heartbeat ((pairState.node true).nextHeartbeat [])⟩)

theorem pairState_holds (who : Bool) : pair.Holds who (pairState.node who) := by
  cases who
  · exact ⟨⟨rfl, rfl, rfl, rfl⟩, by decide, fun positive => absurd positive (by decide)⟩
  · exact ⟨⟨rfl, rfl, rfl, rfl⟩, by decide, fun positive => absurd positive (by decide)⟩

theorem pairRun_runs (loads : Nat → List UInt8 → Bool) : pair.Run loads (pairRun loads) := by
  have level : ∀ who, (pairState.node who).tableVersion = 0 := by
    intro who
    cases who <;> rfl
  refine ⟨⟨pairState_holds, fun _ => rfl, rfl⟩, ?_⟩
  rintro (_ | _ | moment)
  · refine .inr ⟨.heartbeat true [], ⟨rfl, trivial⟩, ?_, rfl⟩
    exact fun who => (level who).le.trans (Nat.zero_le _)
  · refine .inr ⟨.receive false ⟨true, none, .heartbeat ((pairState.node true).nextHeartbeat [])⟩,
      ⟨rfl, List.mem_cons_self, .inl rfl⟩, ?_, rfl⟩
    intro who
    cases who
    · exact le_rfl
    · exact le_rfl
  · exact .inl rfl

theorem pairState_current (who : Bool) :
    (pairState.node who).Current ((pairState.node who).nextHeartbeat []) := by
  refine ⟨pairState.node who, [], rfl, rfl, ?_, ?_⟩
  · rw [clusterHeartbeat_of_fits (pairState_holds who).master (by cases who <;> decide)]
    exact List.mem_cons_self
  · cases who <;> rfl

theorem splitBrain_resolved_pair :
    (∃ who, ∀ moment, ¬ (pairRun (fun _ _ => true) moment).left who) ∧
      (leaves (processcluster (fun _ _ => true) (pairState.node false)
          (.heartbeat ((pairState.node true).nextHeartbeat [])) 2).2 ↔
        election 1000 1 200 150 [⟨2, 1000, 200, true⟩] 0 = none) := by
  refine ⟨(splitBrain_resolved pair fun _ _ => true).1 _ (pairRun_runs _), ?_⟩
  exact ((splitBrain_resolved pair fun _ _ => true).2 false true (by decide) _ _
    (pairState_holds false).toIs (pairState_holds true).toIs _ _ (pairState_current false)
    (pairState_current true)).2 rfl ⟨2, 1000, 200, true⟩ 200 150 rfl rfl (by decide)

end Masters

end L2tpns.Cluster
