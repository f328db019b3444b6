import L2tpns.Cluster.Heartbeat
import L2tpns.Foundation.History
import L2tpns.Foundation.TransitionSystem

/-! # A master and its slave

The heartbeats of one master reach one slave as multicast originals and as
unicast resends from the ring, in any order and any number of times, or not at
all. Heartbeats are counted from the first one the master sends: the heartbeat
at a position carries the position modulo `hbMaxSeq`. What the slave loads is
then a contiguous piece of what the master sent
(`L2tpns.Cluster.Link.Invariant`), and a catch-up resends exactly what is
missing (`L2tpns.Cluster.Link.Invariant.catchup`).
-/

namespace L2tpns.Cluster

/-- The sequence number of the heartbeat at a position. -/
def seqOf (position : Nat) : Int := (position % hbMaxSeq : Nat)

theorem seqOf_nonneg (position : Nat) : 0 ≤ seqOf position := Int.natCast_nonneg _

theorem seqOf_lt (position : Nat) : seqOf position < hbMaxSeq :=
  Int.ofNat_lt.mpr (Nat.mod_lt _ (by decide))

theorem seqOf_ne_neg_one (position : Nat) : seqOf position ≠ -1 := by
  have nonneg := seqOf_nonneg position
  omega

@[simp] theorem seqOf_succ (position : Nat) :
    (seqOf position + 1).tmod hbMaxSeq = seqOf (position + 1) := by
  rw [seqOf, seqOf, ← Nat.cast_add_one, ← Int.ofNat_tmod, Nat.mod_add_mod]

@[simp] theorem uint32_seqOf (position : Nat) : uint32 (seqOf position) = position % hbMaxSeq := by
  have below : position % hbMaxSeq < hbMaxSeq := Nat.mod_lt _ (by decide)
  unfold uint32 seqOf
  unfold hbMaxSeq at *
  omega

@[simp] theorem int32_mod (position : Nat) : int32 (position % hbMaxSeq) = seqOf position := by
  have below : position % hbMaxSeq < hbMaxSeq := Nat.mod_lt _ (by decide)
  unfold int32 seqOf
  unfold hbMaxSeq at *
  rw [Int.bmod_def]
  omega

/-- Sequence numbers and ring slots wrap together. -/
@[simp] theorem seqOf_tmod_history (position : Nat) :
    (seqOf position).tmod hbHistorySize = (position % hbHistorySize : Nat) := by
  rw [seqOf, ← Int.ofNat_tmod, Nat.mod_mod_of_dvd _ (by decide)]

theorem seqOf_eq_iff {position other : Nat} (ahead : position < other + hbMaxSeq)
    (behind : other < position + hbMaxSeq) : seqOf position = seqOf other ↔ position = other := by
  constructor
  · intro same
    exact Foundation.eq_of_serial_eq (Int.ofNat_inj.mp same) ahead behind
  · rintro rfl
    rfl

theorem seqOf_behind {node : Node} {count position : Nat} (counter : node.seqNumber = seqOf count)
    (sent : position ≤ count) (recent : count < position + hbMaxSeq) :
    node.behind (seqOf position) = (count - position : Nat) := by
  unfold Node.behind
  rw [counter]
  unfold seqOf
  unfold hbMaxSeq at *
  dsimp only
  split <;> omega

/-- A datagram to the slave. `position` counts the heartbeat it carries, and
`sentAt` is how many heartbeats the master had sent when it left. -/
structure Copy where
  message : Message
  position : Nat
  sentAt : Nat

/-- A master, a slave and every datagram sent so far. The heartbeats sent, those
whose elements the slave loaded and the position it waits for are history. -/
structure Link where
  master : Node
  slave : Node
  ended : Bool
  sent : List Heartbeat
  applied : List Heartbeat
  next : Option Nat
  toSlave : List Copy
  toMaster : List Int

/-- Steps of the two processes. A datagram sent may arrive at any later time and
any number of times, or never. -/
inductive Link.Action where
  | change (numChanges : Nat)
  | heartbeat (elements : List UInt8)
  | clock (time timeNow : Nat)
  | probe
  | receive (copy : Copy)
  | request (seq : Int)

def heartbeatsOf (events : List Event) : List Heartbeat :=
  events.filterMap fun
    | .sendAll (.heartbeat heartbeat) => some heartbeat
    | _ => none

def loadsOf (events : List Event) : List Heartbeat :=
  events.filterMap fun
    | .load heartbeat => some heartbeat
    | _ => none

def requestsOf (events : List Event) : List Int :=
  events.filterMap fun
    | .send _ (.lastseen seq) => some seq
    | _ => none

def exits (events : List Event) : Bool :=
  events.any fun
    | .exit _ => true
    | _ => false

/-- Where a heartbeat stands, counted back from the master's counter. -/
def positionOf (count : Nat) (seqNumber : Int) : Message → Nat
  | .heartbeat heartbeat => count - ((seqNumber - heartbeat.head.seq) % hbMaxSeq).toNat
  | _ => 0

def copiesOf (count : Nat) (seqNumber : Int) (events : List Event) : List Copy :=
  events.filterMap fun
    | .send _ message | .sendAll message =>
        some ⟨message, positionOf count seqNumber message, count⟩
    | _ => none

namespace Link

def masterMoves (link : Link) (result : Node × List Event) : Link :=
  let sent := link.sent ++ heartbeatsOf result.2
  { link with
    master := result.1
    ended := link.ended || exits result.2
    sent
    toSlave := link.toSlave ++ copiesOf sent.length result.1.seqNumber result.2 }

def slaveMoves (link : Link) (position : Nat) (result : Node × List Event) : Link :=
  { link with
    slave := result.1
    ended := link.ended || exits result.2
    applied := link.applied ++ loadsOf result.2
    next := if loadsOf result.2 = [] then link.next else some (position + 1)
    toMaster := link.toMaster ++ requestsOf result.2 }

def enabled (link : Link) (action : Action) : Prop :=
  link.ended = false ∧
    match action with
    | .receive copy => copy ∈ link.toSlave
    | .request seq => seq ∈ link.toMaster
    | _ => True

section

variable (loads : Nat → List UInt8 → Bool)

def act (link : Link) : Action → Link
  | .change numChanges => link.masterMoves ({ link.master with numChanges := numChanges }, [])
  | .heartbeat elements => link.masterMoves (clusterHeartbeat link.master elements)
  | .clock time timeNow =>
      link.slaveMoves 0 ({ link.slave with time := time, timeNow := timeNow }, [])
  | .probe => link.slaveMoves 0 (probeMaster link.slave)
  | .receive copy => link.slaveMoves copy.position
      (processcluster loads link.slave copy.message link.master.myAddress)
  | .request seq =>
      link.masterMoves (processcluster loads link.master (.lastseen seq) link.slave.myAddress)

/-- The master has sent nothing yet and starts at the number of `first`; the
slave has heard nobody, or waits for the first heartbeat. -/
structure Starts (first : Nat) (link : Link) : Prop where
  master : link.master.iamMaster = true
  counter : link.master.seqNumber = seqOf first
  hearts : link.master.pastHearts = noPastHearts
  slave : link.slave.iamMaster = false
  waiting : link.slave.seqNumber = -1 ∧ link.next = none ∨
    link.slave.seqNumber = seqOf first ∧ link.next = some 0
  running : link.ended = false
  sent : link.sent = []
  applied : link.applied = []
  toSlave : link.toSlave = []
  toMaster : link.toMaster = []

def system (first : Nat) : Foundation.TransitionSystem Link Action where
  initial := Starts first
  step link action next := link.enabled action ∧ next = link.act loads action

/-- No datagram older than `hbMaxSeq - hbHistorySize` heartbeats arrives. -/
def Young (link : Link) : Action → Prop
  | .receive copy => link.sent.length ≤ copy.sentAt + (hbMaxSeq - hbHistorySize)
  | _ => True

/-- The slave is less than `hbMaxSeq` heartbeats behind when one arrives. -/
def Near (link : Link) : Action → Prop
  | .receive ⟨.heartbeat _, _, _⟩ =>
      ∀ expected, link.next = some expected → link.sent.length < expected + hbMaxSeq
  | _ => True

end

/-- The slave waits for the position after the last heartbeat it loaded, and
what it loaded is what the master sent from some position on. -/
def Waits (first : Nat) (link : Link) : Prop :=
  link.next = none ∧ link.slave.seqNumber = -1 ∧ link.applied = [] ∨
    ∃ start, link.next = some (start + link.applied.length) ∧
      link.slave.seqNumber = seqOf (first + (start + link.applied.length)) ∧
        start + link.applied.length ≤ link.sent.length ∧
          ∀ place heartbeat, link.applied[place]? = some heartbeat →
            link.sent[start + place]? = some heartbeat

structure Invariant (first : Nat) (link : Link) : Prop where
  master : link.master.iamMaster = true
  counter : link.master.seqNumber = seqOf (first + link.sent.length)
  numbered : ∀ position heartbeat, link.sent[position]? = some heartbeat →
    heartbeat.head.seq = (first + position) % hbMaxSeq
  ring : Foundation.Remembers hbHistorySize first
    (fun count heartbeat => ⟨seqOf count, some heartbeat⟩) (· = ⟨0, none⟩) link.sent
    link.master.pastHearts
  copies : ∀ copy ∈ link.toSlave, ∀ heartbeat, copy.message = .heartbeat heartbeat →
    link.sent[copy.position]? = some heartbeat ∧ copy.sentAt < copy.position + hbHistorySize
  noMaster : ∀ copy ∈ link.toSlave, ∀ address, copy.message ≠ .master address
  slave : link.slave.iamMaster = false
  waits : link.Waits first

variable {first : Nat} {link : Link}

theorem Starts.invariant (starts : Starts first link) : Invariant first link where
  master := starts.master
  counter := by rw [starts.counter, starts.sent, List.length_nil, Nat.add_zero]
  numbered position heartbeat present := by
    rw [starts.sent, List.getElem?_nil] at present
    cases present
  ring := by
    rw [starts.sent, starts.hearts]
    exact .empty fun _ => rfl
  copies copy member := by
    rw [starts.toSlave] at member
    exact absurd member List.not_mem_nil
  noMaster copy member := by
    rw [starts.toSlave] at member
    exact absurd member List.not_mem_nil
  slave := starts.slave
  waits := by
    rcases starts.waiting with ⟨fresh, nothing⟩ | ⟨aligned, zero⟩
    · exact .inl ⟨nothing, fresh, starts.applied⟩
    · refine .inr ⟨0, ?_, ?_, ?_, ?_⟩
      · rw [zero, starts.applied, List.length_nil]
      · rw [aligned, starts.applied, List.length_nil]
        rfl
      · rw [starts.applied, starts.sent]
        exact le_rfl
      · intro place heartbeat present
        rw [starts.applied, List.getElem?_nil] at present
        cases present

theorem positionOf_heartbeat {count position : Nat} {heartbeat : Heartbeat}
    (numbered : heartbeat.head.seq = (first + position) % hbMaxSeq) (sent : position ≤ count)
    (recent : count < position + hbMaxSeq) :
    positionOf count (seqOf (first + count)) (.heartbeat heartbeat) = position := by
  change count - ((seqOf (first + count) - heartbeat.head.seq) % hbMaxSeq).toNat = position
  rw [numbered]
  unfold seqOf
  unfold hbMaxSeq at *
  omega

theorem numbered_concat {sent : List Heartbeat} {heartbeat : Heartbeat}
    (numbered : ∀ position old, sent[position]? = some old →
      old.head.seq = (first + position) % hbMaxSeq)
    (next : heartbeat.head.seq = (first + sent.length) % hbMaxSeq) :
    ∀ position old, (sent ++ [heartbeat])[position]? = some old →
      old.head.seq = (first + position) % hbMaxSeq := by
  intro position old present
  rcases Nat.lt_or_ge position sent.length with before | after
  · rw [List.getElem?_append_left before] at present
    exact numbered position old present
  · have last : position = sent.length := by
      have inside := (List.getElem?_eq_some_iff.mp present).1
      rw [List.length_append, List.length_singleton] at inside
      omega
    rw [last, List.getElem?_concat_length] at present
    cases present
    rw [last, next]

theorem Waits.extend (waits : link.Waits first) (sent : List Heartbeat)
    {next : Link} (slave : next.slave = link.slave) (applied : next.applied = link.applied)
    (expects : next.next = link.next) (grows : next.sent = link.sent ++ sent) :
    next.Waits first := by
  unfold Waits
  rw [slave, applied, expects, grows]
  rcases waits with fresh | ⟨start, expected, counter, within, loaded⟩
  · exact .inl fresh
  · refine .inr ⟨start, expected, counter, ?_, ?_⟩
    · rw [List.length_append]
      omega
    · intro place heartbeat present
      have old := loaded place heartbeat present
      rw [List.getElem?_append_left (List.getElem?_eq_some_iff.mp old).1]
      exact old

/-- The master moves without sending a new heartbeat. -/
theorem Invariant.masterMoves (invariant : Invariant first link) {result : Node × List Event}
    (master : result.1.iamMaster = true)
    (counter : result.1.seqNumber = link.master.seqNumber)
    (hearts : result.1.pastHearts = link.master.pastHearts)
    (nothing : heartbeatsOf result.2 = [])
    (copies : ∀ copy ∈ copiesOf link.sent.length result.1.seqNumber result.2,
      (∀ address, copy.message ≠ .master address) ∧
        ∀ heartbeat, copy.message = .heartbeat heartbeat →
          link.sent[copy.position]? = some heartbeat ∧
            copy.sentAt < copy.position + hbHistorySize) :
    Invariant first (link.masterMoves result) := by
  have same : (link.masterMoves result).sent = link.sent := by
    simp only [Link.masterMoves, nothing, List.append_nil]
  constructor
  · exact master
  · rw [same]
    exact counter.trans invariant.counter
  · rw [same]
    exact invariant.numbered
  · rw [same]
    exact (show (link.masterMoves result).master.pastHearts = _ from hearts) ▸ invariant.ring
  · intro copy member
    rw [same]
    simp only [Link.masterMoves, nothing, List.append_nil] at member
    rcases List.mem_append.mp member with old | new
    · exact invariant.copies copy old
    · exact (copies copy new).2
  · intro copy member
    simp only [Link.masterMoves, nothing, List.append_nil] at member
    rcases List.mem_append.mp member with old | new
    · exact invariant.noMaster copy old
    · exact (copies copy new).1
  · exact invariant.slave
  · exact invariant.waits.extend [] rfl rfl rfl (by rw [same, List.append_nil])

theorem Invariant.heartbeat (invariant : Invariant first link) (elements : List UInt8) :
    Invariant first (link.masterMoves (clusterHeartbeat link.master elements)) := by
  rcases Nat.lt_or_ge maxHeartSize (link.master.nextHeartbeat elements).size with oversize | fits
  · rw [clusterHeartbeat_of_oversize invariant.master oversize]
    refine invariant.masterMoves invariant.master rfl rfl rfl ?_
    exact fun copy member => absurd member List.not_mem_nil
  rw [clusterHeartbeat_of_fits invariant.master fits]
  generalize sending : link.master.nextHeartbeat elements = heartbeat
  have numbered : heartbeat.head.seq = (first + link.sent.length) % hbMaxSeq := by
    rw [← sending]
    change uint32 link.master.seqNumber = _
    rw [invariant.counter, uint32_seqOf]
  have counter : (link.master.afterHeartbeat heartbeat).seqNumber =
      seqOf (first + (link.sent.length + 1)) := by
    change (link.master.seqNumber + 1).tmod hbMaxSeq = _
    rw [invariant.counter, seqOf_succ, Nat.add_assoc]
  have count : (link.sent ++ [heartbeat]).length = link.sent.length + 1 := by
    rw [List.length_append, List.length_singleton]
  constructor
  · exact invariant.master
  · change _ = seqOf (first + (link.sent ++ [heartbeat]).length)
    rw [count]
    exact counter
  · exact numbered_concat invariant.numbered numbered
  · have pushed := invariant.ring.push (by decide) heartbeat
    have slot : (link.master.seqNumber.tmod hbHistorySize).toNat =
        (first + link.sent.length) % hbHistorySize := by
      rw [invariant.counter, seqOf_tmod_history, Int.toNat_natCast]
    change Foundation.Remembers _ _ _ _ _ (Function.update link.master.pastHearts _ _)
    rw [slot, invariant.counter]
    exact pushed
  · intro copy member old carries
    change copy ∈ link.toSlave ++ [_] at member
    change (link.sent ++ [heartbeat])[copy.position]? = some old ∧ _
    rcases List.mem_append.mp member with earlier | new
    · obtain ⟨present, near⟩ := invariant.copies copy earlier old carries
      rw [List.getElem?_append_left (List.getElem?_eq_some_iff.mp present).1]
      exact ⟨present, near⟩
    · rw [List.mem_singleton.mp new] at carries ⊢
      cases carries
      dsimp only
      change (link.sent ++ [heartbeat])[positionOf (link.sent ++ [heartbeat]).length
        (link.master.afterHeartbeat heartbeat).seqNumber (.heartbeat heartbeat)]? = _ ∧
          (link.sent ++ [heartbeat]).length < positionOf (link.sent ++ [heartbeat]).length
            (link.master.afterHeartbeat heartbeat).seqNumber (.heartbeat heartbeat) + _
      rw [count, counter, positionOf_heartbeat numbered (by omega) (by unfold hbMaxSeq; omega),
        List.getElem?_concat_length]
      exact ⟨rfl, by unfold hbHistorySize; omega⟩
  · intro copy member address carries
    change copy ∈ link.toSlave ++ [_] at member
    rcases List.mem_append.mp member with earlier | new
    · exact invariant.noMaster copy earlier address carries
    · rw [List.mem_singleton.mp new] at carries
      cases carries
  · exact invariant.slave
  · exact invariant.waits.extend [heartbeat] rfl rfl rfl rfl

theorem Invariant.ring_seq (invariant : Invariant first link) {slot position : Nat}
    {heartbeat : Heartbeat} (present : link.sent[position]? = some heartbeat)
    (near : link.sent.length ≤ position + hbHistorySize)
    (holds : link.master.pastHearts slot = ⟨seqOf (first + position), some heartbeat⟩)
    (behind :
      (link.master.seqNumber - (link.master.pastHearts slot).seq) % hbMaxSeq < hbHistorySize) :
    link.sent.length < position + hbHistorySize := by
  have inside := (List.getElem?_eq_some_iff.mp present).1
  rw [holds, invariant.counter] at behind
  dsimp only at behind
  unfold seqOf at behind
  unfold hbMaxSeq hbHistorySize at *
  omega

theorem Invariant.mem_resendHearts (invariant : Invariant first link) {slave fuel : Nat} {seq : Int}
    {event : Event}
    (near : 0 ≤ seq → seq < hbMaxSeq → (link.master.seqNumber - seq) % hbMaxSeq < hbHistorySize)
    (resent : event ∈ resendHearts link.master slave fuel seq) :
    event = .send slave .empty ∨ ∃ position heartbeat, event = .send slave (.heartbeat heartbeat) ∧
      link.sent[position]? = some heartbeat ∧ link.sent.length < position + hbHistorySize := by
  induction fuel generalizing seq with
  | zero => exact absurd resent List.not_mem_nil
  | succ fuel ih =>
      rw [resendHearts_succ] at resent
      split at resent
      · exact absurd resent List.not_mem_nil
      rename_i unfinished
      split at resent
      · exact absurd resent List.not_mem_nil
      split at resent
      · exact absurd resent List.not_mem_nil
      rename_i matching
      generalize slot : (seq.tmod hbHistorySize).toNat = place at resent matching
      have held := not_not.mp matching
      -- a slot that matches is blank or a recent heartbeat, so `seq` is a sequence number
      have range : 0 ≤ seq ∧ seq < hbMaxSeq := by
        rw [held]
        rcases invariant.ring.nothingElse place with blank | ⟨position, _, _, _, _, holds⟩
        · rw [blank]
          decide
        · rw [holds]
          exact ⟨seqOf_nonneg _, seqOf_lt _⟩
      have behind := near range.1 range.2
      rcases List.mem_append.mp resent with now | later
      · unfold peerSend at now
        split at now
        · exact absurd now List.not_mem_nil
        rw [List.mem_singleton.mp now]
        rcases invariant.ring.nothingElse place with
          blank | ⟨position, hb, present, recent, _, holds⟩
        · rw [blank]
          exact .inl rfl
        · rw [held] at behind
          refine .inr ⟨position, hb, ?_, present,
            invariant.ring_seq present recent holds behind⟩
          rw [holds]
          rfl
      · refine ih ?_ later
        intro _ _
        have counter := invariant.counter
        have nonneg := seqOf_nonneg (first + link.sent.length)
        have below := seqOf_lt (first + link.sent.length)
        rw [← counter] at nonneg below
        have next : (seq + 1).tmod hbMaxSeq = (seq + 1) % hbMaxSeq :=
          Int.tmod_eq_emod_of_nonneg (by omega)
        rw [next]
        unfold hbMaxSeq hbHistorySize at *
        omega

/-- A request is answered by copies of recent heartbeats. -/
theorem Invariant.request (invariant : Invariant first link) (loads : Nat → List UInt8 → Bool)
    (seq : Int) :
    Invariant first (link.masterMoves
      (processcluster loads link.master (.lastseen seq) link.slave.myAddress)) := by
  have silent : Invariant first (link.masterMoves (link.master, [])) :=
    invariant.masterMoves invariant.master rfl rfl rfl fun copy member =>
      absurd member List.not_mem_nil
  unfold processcluster
  split
  · exact silent
  dsimp only
  have answers : ∀ event ∈ clusterCatchupSlave link.master seq link.slave.myAddress,
      event = .send link.slave.myAddress (.kill seq) ∨ event = .send link.slave.myAddress .empty ∨
        ∃ position heartbeat, event = .send link.slave.myAddress (.heartbeat heartbeat) ∧
          link.sent[position]? = some heartbeat ∧
            link.sent.length < position + hbHistorySize := by
    intro event member
    unfold clusterCatchupSlave at member
    rw [invariant.master] at member
    simp only [Bool.not_true, Bool.false_eq_true, ↓reduceIte] at member
    split at member
    · unfold peerSend at member
      split at member
      · exact absurd member List.not_mem_nil
      · exact .inl (List.mem_singleton.mp member)
    · rename_i near
      refine .inr (invariant.mem_resendHearts ?_ member)
      intro nonneg below
      unfold Node.behind at near
      dsimp only at near
      have counter := invariant.counter
      have range := seqOf_nonneg (first + link.sent.length)
      have top := seqOf_lt (first + link.sent.length)
      rw [← counter] at range top
      unfold hbMaxSeq hbHistorySize at *
      split at near <;> omega
  refine invariant.masterMoves invariant.master rfl rfl ?_ ?_
  · refine List.filterMap_eq_nil_iff.mpr fun event member => ?_
    rcases answers event member with rfl | rfl | ⟨position, heartbeat, rfl, _, _⟩ <;> rfl
  · intro copy member
    obtain ⟨event, sent, becomes⟩ := List.mem_filterMap.mp member
    rcases answers event sent with rfl | rfl | ⟨position, heartbeat, rfl, present, near⟩
    · cases becomes
      exact ⟨fun _ => nofun, fun _ => nofun⟩
    · cases becomes
      exact ⟨fun _ => nofun, fun _ => nofun⟩
    · cases becomes
      refine ⟨fun _ => nofun, fun other carries => ?_⟩
      cases carries
      have inside := (List.getElem?_eq_some_iff.mp present).1
      have margin := hbHistorySize_lt_hbMaxSeq
      dsimp only
      rw [invariant.counter, positionOf_heartbeat (invariant.numbered position heartbeat present)
        inside.le (by omega)]
      exact ⟨present, near⟩

end Link

theorem loadsOf_peerSend_lastseen (peer : Nat) (seq : Int) :
    loadsOf (peerSend peer (.lastseen seq)) = [] := by
  unfold peerSend
  split <;> rfl

/-- A slave that goes on waiting for what it waited for. -/
structure Passes (node : Node) (result : Node × List Event) : Prop where
  slave : result.1.iamMaster = false
  nothing : loadsOf result.2 = []
  counter : result.1.seqNumber = node.seqNumber
  hearts : result.1.pastHearts = node.pastHearts

/-- A slave loads the heartbeat it expects, or any one when it expects none,
saves it in its ring and then expects the next. -/
structure Takes (node : Node) (heartbeat : Heartbeat) (addr : Nat)
    (result : Node × List Event) : Prop where
  slave : result.1.iamMaster = false
  loaded : loadsOf result.2 = [heartbeat]
  expects : node.seqNumber = -1 ∨ uint32 node.seqNumber = heartbeat.head.seq
  follows : node.masterAddress = 0 ∨ addr = node.masterAddress
  counter : result.1.seqNumber = ((heartbeat.head.seq + 1) % 2 ^ 32 % hbMaxSeq : Nat)
  hearts : result.1.pastHearts = Function.update node.pastHearts
    (heartbeat.head.seq % hbHistorySize) ⟨int32 heartbeat.head.seq, some heartbeat⟩

theorem probeMaster_passes {node : Node} (slave : node.iamMaster = false) :
    Passes node (probeMaster node) := by
  unfold probeMaster
  split
  · split
    · exact ⟨slave, loadsOf_peerSend_lastseen _ _, rfl, rfl⟩
    · exact ⟨slave, rfl, rfl, rfl⟩
  · exact ⟨slave, rfl, rfl, rfl⟩

/-- What a slave does with a heartbeat. -/
theorem clusterProcessHeartbeat_cases (loads : Nat → List UInt8 → Bool) {node : Node}
    (slave : node.iamMaster = false) (heartbeat : Heartbeat) (addr : Nat)
    (word : heartbeat.head.seq < 2 ^ 32) :
    Passes node (clusterProcessHeartbeat loads node heartbeat addr) ∨
      Takes node heartbeat addr (clusterProcessHeartbeat loads node heartbeat addr) := by
  have silent : Passes node (node, []) := ⟨slave, rfl, rfl, rfl⟩
  have asks : ∀ heard : Node, heard.iamMaster = false → heard.seqNumber = node.seqNumber →
      heard.pastHearts = node.pastHearts → Passes node (outOfSequence heard addr) := by
    intro heard follows counter hearts
    unfold outOfSequence
    dsimp only
    split
    · exact ⟨follows, loadsOf_peerSend_lastseen _ _, counter, hearts⟩
    · exact ⟨follows, rfl, counter, hearts⟩
  unfold clusterProcessHeartbeat
  rw [slave]
  simp only [Bool.false_eq_true, ↓reduceIte]
  split
  · exact .inl silent
  split
  · exact .inl silent
  split
  · exact .inl silent
  unfold followMaster
  split
  · exact .inl silent
  rename_i ours
  have follows : node.masterAddress = 0 ∨ addr = node.masterAddress := by
    by_cases unset : node.masterAddress = 0
    · exact .inl unset
    · exact .inr (not_not.mp fun other => ours ⟨unset, other⟩)
  have takes : ∀ aligned : Node, aligned.iamMaster = false →
      aligned.pastHearts = node.pastHearts →
        node.seqNumber = -1 ∨ uint32 node.seqNumber = heartbeat.head.seq →
          Takes node heartbeat addr (takeHeartbeat loads aligned heartbeat addr) := by
    intro aligned slave same expects
    unfold takeHeartbeat
    dsimp only
    split <;>
      exact ⟨slave, rfl, expects, follows, rfl, by rw [← same]; rfl⟩
  by_cases fresh : node.seqNumber = -1
  · simp only [fresh, ↓reduceIte, uint32_int32 word, ne_eq, not_true_eq_false]
    exact .inr (takes _ slave rfl (.inl fresh))
  · simp only [fresh, ↓reduceIte]
    split
    · exact .inl (asks _ slave rfl rfl)
    · rename_i expected
      exact .inr (takes _ slave rfl (.inr (not_not.mp expected)))

theorem processcluster_cases (loads : Nat → List UInt8 → Bool) {node : Node}
    (slave : node.iamMaster = false) (message : Message) (addr : Nat)
    (word : ∀ heartbeat, message = .heartbeat heartbeat → heartbeat.head.seq < 2 ^ 32)
    (noMaster : ∀ address, message ≠ .master address) :
    Passes node (processcluster loads node message addr) ∨
      ∃ heartbeat, message = .heartbeat heartbeat ∧
        Takes node heartbeat addr (processcluster loads node message addr) := by
  have silent : Passes node (node, []) := ⟨slave, rfl, rfl, rfl⟩
  unfold processcluster
  split
  · exact .inl silent
  cases message with
  | heartbeat heartbeat =>
      rcases clusterProcessHeartbeat_cases loads slave heartbeat addr (word heartbeat rfl) with
        passes | takes
      · exact .inl passes
      · exact .inr ⟨heartbeat, rfl, takes⟩
  | lastseen seq =>
      refine .inl ⟨slave, ?_, rfl, rfl⟩
      unfold clusterCatchupSlave peerSend
      simp only [slave, Bool.not_false, ↓reduceIte]
      split <;> rfl
  | kill seq =>
      simp only [slave, Bool.false_eq_true, ↓reduceIte]
      split
      · exact .inl silent
      · exact .inl ⟨slave, rfl, rfl, rfl⟩
  | master address => exact absurd rfl (noMaster address)
  | empty => exact .inl silent

namespace Link

variable {first : Nat} {link : Link}

variable {position addr : Nat} {heartbeat : Heartbeat} {result : Node × List Event}

/-- The heartbeat at a position that the slave waits for, or at any position
while it waits for none, extends what it has loaded. -/
theorem Waits.load (waits : link.Waits first) (present : link.sent[position]? = some heartbeat)
    (expected : ∀ waiting, link.next = some waiting → waiting = position)
    (loaded : loadsOf result.2 = [heartbeat])
    (counter : result.1.seqNumber = seqOf (first + (position + 1))) :
    (link.slaveMoves position result).Waits first := by
  have inside := (List.getElem?_eq_some_iff.mp present).1
  rcases waits with ⟨_, _, empty⟩ | ⟨start, waiting, _, _, old⟩
  · refine .inr ⟨position, ?_, ?_, ?_, ?_⟩
    · simp [Link.slaveMoves, loaded, empty]
    · simpa [Link.slaveMoves, loaded, empty] using counter
    · simpa [Link.slaveMoves, loaded, empty] using Nat.succ_le_of_lt inside
    · intro place other member
      simp only [Link.slaveMoves, loaded, empty, List.nil_append, List.getElem?_singleton] at member
      split at member
      · rename_i zero
        cases member
        rw [zero]
        exact present
      · cases member
  · have here := expected _ waiting
    refine .inr ⟨start, ?_, ?_, ?_, ?_⟩
    · simp [Link.slaveMoves, loaded, ← here, Nat.add_assoc]
    · simpa [Link.slaveMoves, loaded, ← here, Nat.add_assoc] using counter
    · simp only [Link.slaveMoves, loaded, List.length_append, List.length_singleton]
      omega
    · intro place other member
      simp only [Link.slaveMoves, loaded] at member
      rcases Nat.lt_or_ge place link.applied.length with before | after
      · rw [List.getElem?_append_left before] at member
        exact old place other member
      · have last : place = link.applied.length := by
          have bound := (List.getElem?_eq_some_iff.mp member).1
          rw [List.length_append, List.length_singleton] at bound
          omega
        rw [last, List.getElem?_concat_length] at member
        cases member
        rw [last, here]
        exact present

theorem Invariant.passes (invariant : Invariant first link) (position : Nat)
    (stays : Passes link.slave result) :
    Invariant first (link.slaveMoves position result) := by
  refine ⟨invariant.master, invariant.counter, invariant.numbered, invariant.ring,
    invariant.copies, invariant.noMaster, stays.slave, ?_⟩
  have waits := invariant.waits
  simpa only [Waits, Link.slaveMoves, stays.nothing, stays.counter, List.append_nil, ↓reduceIte]
    using waits

theorem Invariant.takes_expected (invariant : Invariant first link) {sentAt : Nat}
    (present : link.sent[position]? = some heartbeat) (recent : sentAt < position + hbHistorySize)
    (young : link.sent.length ≤ sentAt + (hbMaxSeq - hbHistorySize))
    (near : ∀ expected, link.next = some expected → link.sent.length < expected + hbMaxSeq)
    (takes : Takes link.slave heartbeat addr result) :
    ∀ expected, link.next = some expected → expected = position := by
  intro expected waits
  have inside := (List.getElem?_eq_some_iff.mp present).1
  have lag := near expected waits
  rcases invariant.waits with ⟨none_, _⟩ | ⟨start, next, counter, within, _⟩
  · rw [none_] at waits
    cases waits
  · rw [next, Option.some.injEq] at waits
    rw [waits] at counter within
    have same : uint32 link.slave.seqNumber = heartbeat.head.seq := by
      refine takes.expects.resolve_left ?_
      rw [counter]
      exact seqOf_ne_neg_one _
    rw [counter, uint32_seqOf, invariant.numbered _ _ present] at same
    have margin := hbHistorySize_lt_hbMaxSeq
    have := Foundation.eq_of_serial_eq same (by omega) (by omega)
    omega

theorem next_of_takes {node : Node} (takes : Takes node heartbeat addr result)
    (numbered : heartbeat.head.seq = (first + position) % hbMaxSeq) :
    result.1.seqNumber = seqOf (first + (position + 1)) := by
  rw [takes.counter, numbered]
  unfold seqOf
  unfold hbMaxSeq
  omega

theorem Invariant.copy_word (invariant : Invariant first link) {copy : Copy}
    (sent : copy ∈ link.toSlave) (heartbeat : Heartbeat)
    (carries : copy.message = .heartbeat heartbeat) : heartbeat.head.seq < 2 ^ 32 := by
  rw [invariant.numbered _ _ (invariant.copies copy sent heartbeat carries).1]
  unfold hbMaxSeq
  omega

theorem Invariant.receive (invariant : Invariant first link) (loads : Nat → List UInt8 → Bool)
    {copy : Copy} (sent : copy ∈ link.toSlave) (young : link.Young (.receive copy))
    (near : link.Near (.receive copy)) :
    Invariant first (link.slaveMoves copy.position
      (processcluster loads link.slave copy.message link.master.myAddress)) := by
  rcases processcluster_cases loads invariant.slave copy.message link.master.myAddress
    (invariant.copy_word sent) (invariant.noMaster copy sent) with
    passes | ⟨heartbeat, carries, takes⟩
  · exact invariant.passes copy.position passes
  · obtain ⟨present, recent⟩ := invariant.copies copy sent heartbeat carries
    have numbered := invariant.numbered _ _ present
    refine ⟨invariant.master, invariant.counter, invariant.numbered, invariant.ring,
      invariant.copies, invariant.noMaster, takes.slave, ?_⟩
    refine invariant.waits.load present ?_ takes.loaded (next_of_takes takes numbered)
    refine invariant.takes_expected present recent young ?_ takes
    rcases copy with ⟨message, position, sentAt⟩
    cases carries
    exact near

theorem Invariant.act (invariant : Invariant first link) (loads : Nat → List UInt8 → Bool)
    (action : Action) (young : link.Young action) (near : link.Near action)
    (possible : link.enabled action) : Invariant first (link.act loads action) := by
  cases action with
  | change numChanges =>
      refine invariant.masterMoves invariant.master rfl rfl rfl ?_
      exact fun copy member => absurd member List.not_mem_nil
  | heartbeat elements => exact invariant.heartbeat elements
  | clock time timeNow => exact invariant.passes 0 ⟨invariant.slave, rfl, rfl, rfl⟩
  | probe => exact invariant.passes 0 (probeMaster_passes invariant.slave)
  | receive copy => exact invariant.receive loads possible.2 young near
  | request seq => exact invariant.request loads seq

theorem invariant_of_reachable {loads : Nat → List UInt8 → Bool}
    (reached : (system loads first).ReachableUnder
      (fun link action => link.Young action ∧ link.Near action) link) :
    Invariant first link := by
  refine reached.invariant (fun _ => Starts.invariant) ?_
  rintro link action _ invariant ⟨young, near⟩ ⟨possible, rfl⟩
  exact invariant.act loads action young near possible

/-- From any position less than a ring's length back, the ring is resent in
order up to the last heartbeat. -/
theorem Invariant.resendHearts_eq (invariant : Invariant first link) {slave : Nat}
    (addressed : slave ≠ 0) {fuel : Nat} (within : position ≤ link.sent.length)
    (near : link.sent.length < position + hbHistorySize)
    (enough : link.sent.length ≤ position + fuel) :
    resendHearts link.master slave fuel (seqOf (first + position)) =
      (link.sent.drop position).map fun heartbeat => .send slave (.heartbeat heartbeat) := by
  induction fuel generalizing position with
  | zero =>
      have finished : position = link.sent.length := by omega
      rw [finished, List.drop_length]
      rfl
  | succ fuel ih =>
      have reached : seqOf (first + position) = link.master.seqNumber ↔
          first + position = first + link.sent.length := by
        have margin := hbHistorySize_lt_hbMaxSeq
        rw [invariant.counter]
        exact seqOf_eq_iff (by omega) (by omega)
      rw [resendHearts_succ]
      simp only [reached]
      rcases Nat.lt_or_ge position link.sent.length with before | after
      · have unfinished : ¬ first + position = first + link.sent.length := by omega
        have present : link.sent[position]? = some link.sent[position] :=
          List.getElem?_eq_getElem before
        have slot := invariant.ring.recent position _ present near.le
        have inside : ¬ (((first + position) % hbHistorySize : Nat) : Int) < 0 := by omega
        simp only [unfinished, ↓reduceIte, seqOf_tmod_history, inside, Int.toNat_natCast, slot,
          ne_eq, not_true_eq_false, seqOf_succ]
        rw [Nat.add_assoc, ih before (by omega) (by omega), List.drop_eq_getElem_cons before,
          List.map_cons]
        simp only [peerSend, addressed, ↓reduceIte]
        rfl
      · have finished : position = link.sent.length := by omega
        rw [finished, List.drop_length]
        simp only [↓reduceIte, List.map_nil]

theorem Invariant.catchup (invariant : Invariant first link) {slave expected : Nat}
    (addressed : slave ≠ 0) (waiting : link.next = some expected)
    (near : link.sent.length < expected + hbHistorySize) :
    clusterCatchupSlave link.master link.slave.seqNumber slave =
      (link.sent.drop expected).map fun heartbeat => .send slave (.heartbeat heartbeat) := by
  rcases invariant.waits with ⟨none_, _⟩ | ⟨start, next, counter, within, _⟩
  · rw [none_] at waiting
    cases waiting
  rw [next, Option.some.injEq] at waiting
  rw [waiting] at counter within
  have margin := hbHistorySize_lt_hbMaxSeq
  have distance := seqOf_behind invariant.counter (by omega : first + expected ≤ _) (by omega)
  have recent : ¬ link.master.behind (seqOf (first + expected)) ≥ hbHistorySize := by
    rw [distance]
    omega
  unfold clusterCatchupSlave
  rw [counter, invariant.master]
  simp only [Bool.not_true, Bool.false_eq_true, ↓reduceIte, recent]
  exact invariant.resendHearts_eq addressed within near (by omega)

/-- In-order replication. While the slave is less than `hbMaxSeq` heartbeats
behind whenever one arrives, what it loads is a contiguous piece of what the
master sent, each heartbeat under the number it was sent with; and a slave less
than a ring's length behind is sent exactly the heartbeats it misses. -/
theorem replication_in_order (loads : Nat → List UInt8 → Bool) (first : Nat) (link : Link)
    (reached : (system loads first).ReachableUnder
      (fun link action => link.Young action ∧ link.Near action) link) :
    (∃ start, ∀ place heartbeat, link.applied[place]? = some heartbeat →
      link.sent[start + place]? = some heartbeat ∧
        heartbeat.head.seq = (first + (start + place)) % hbMaxSeq) ∧
    ∀ slave expected, slave ≠ 0 → link.next = some expected →
      link.sent.length < expected + hbHistorySize →
        clusterCatchupSlave link.master link.slave.seqNumber slave =
          (link.sent.drop expected).map fun heartbeat => .send slave (.heartbeat heartbeat) := by
  have invariant := invariant_of_reachable reached
  refine ⟨?_, fun slave expected addressed waiting near =>
    invariant.catchup addressed waiting near⟩
  rcases invariant.waits with ⟨_, _, empty⟩ | ⟨start, _, _, _, loaded⟩
  · refine ⟨0, fun place heartbeat present => ?_⟩
    rw [empty, List.getElem?_nil] at present
    cases present
  · refine ⟨start, fun place heartbeat present => ?_⟩
    have sent := loaded place heartbeat present
    exact ⟨sent, invariant.numbered _ _ sent⟩

theorem heartbeat_spec (master : link.master.iamMaster = true) (elements : List UInt8)
    (fits : elements.length ≤ 8000) (loads : Nat → List UInt8 → Bool) :
    link.act loads (.heartbeat elements) =
      { link with
        master := link.master.afterHeartbeat (link.master.nextHeartbeat elements)
        sent := link.sent ++ [link.master.nextHeartbeat elements]
        toSlave := link.toSlave ++ [⟨.heartbeat (link.master.nextHeartbeat elements),
          positionOf (link.sent.length + 1) ((link.master.seqNumber + 1).tmod hbMaxSeq)
            (.heartbeat (link.master.nextHeartbeat elements)), link.sent.length + 1⟩] } := by
  have small : (link.master.nextHeartbeat elements).size ≤ maxHeartSize := by
    change 136 + elements.length ≤ 8192
    omega
  have quiet : exits [.sendAll (.heartbeat (link.master.nextHeartbeat elements))] = false := rfl
  have count : (link.sent ++ heartbeatsOf [.sendAll (.heartbeat
      (link.master.nextHeartbeat elements))]).length = link.sent.length + 1 :=
    List.length_append
  simp only [Link.act, clusterHeartbeat_of_fits master small, Link.masterMoves, quiet,
    Bool.or_false, count]
  rfl

/-- What `count` lost heartbeats without elements leave behind. -/
structure Lost (first count : Nat) (link later : Link) : Prop where
  invariant : Invariant first later
  running : later.ended = false
  slave : later.slave = link.slave
  applied : later.applied = link.applied
  bindAddress : later.master.bindAddress = link.master.bindAddress
  myAddress : later.master.myAddress = link.master.myAddress
  sent : ∃ lost : List Heartbeat, later.sent = link.sent ++ lost ∧ lost.length = count ∧
    ∀ heartbeat ∈ lost, heartbeat.elements = []

theorem exists_lost {loads : Nat → List UInt8 → Bool} (invariant : Invariant first link)
    (running : link.ended = false) (reached : (system loads first).ReachableUnder Young link)
    (count : Nat) :
    ∃ later, (system loads first).ReachableUnder Young later ∧ Lost first count link later := by
  induction count with
  | zero =>
      exact ⟨link, reached, invariant, running, rfl, rfl, rfl, rfl, [], by simp, rfl, by simp⟩
  | succ count ih =>
      obtain ⟨before, arrived, lost⟩ := ih
      have spec := heartbeat_spec lost.invariant.master [] (by simp) loads
      refine ⟨before.act loads (.heartbeat []),
        .step (.heartbeat []) arrived trivial ⟨⟨lost.running, trivial⟩, rfl⟩, ?_⟩
      obtain ⟨hearts, sent, length, bare⟩ := lost.sent
      refine ⟨lost.invariant.heartbeat [], ?_, ?_, ?_, ?_, ?_, ?_⟩
      · rw [spec]
        exact lost.running
      · rw [spec]
        exact lost.slave
      · rw [spec]
        exact lost.applied
      · rw [spec]
        exact lost.bindAddress
      · rw [spec]
        exact lost.myAddress
      · refine ⟨hearts ++ [before.master.nextHeartbeat []], ?_, ?_, ?_⟩
        · rw [spec, ← List.append_assoc, ← sent]
        · rw [List.length_append, List.length_singleton, length]
        · intro heartbeat member
          rcases List.mem_append.mp member with old | new
          · exact bare heartbeat old
          · rw [List.mem_singleton.mp new]
            rfl

theorem loadsOf_clusterProcessHeartbeat (loads : Nat → List UInt8 → Bool) {node : Node}
    (slave : node.iamMaster = false)
    (version : heartbeat.version = hbVersion) (fits : heartbeat.size ≤ maxHeartSize)
    (cluster : heartbeat.head.clusterid = node.bindAddress) (known : addr = node.masterAddress)
    (aligned : node.seqNumber ≠ -1) (expected : uint32 node.seqNumber = heartbeat.head.seq) :
    loadsOf (clusterProcessHeartbeat loads node heartbeat addr).2 = [heartbeat] := by
  have supported : ¬ (heartbeat.version < 5 ∨ heartbeat.version > hbVersion) := by
    rw [version]
    decide
  have taken : ∀ ready : Node,
      loadsOf (takeHeartbeat loads ready heartbeat addr).2 = [heartbeat] := by
    intro ready
    unfold takeHeartbeat
    dsimp only
    split <;> rfl
  simp only [clusterProcessHeartbeat, supported, ↓reduceIte, gt_iff_lt, Nat.not_lt.mpr fits,
    cluster, ne_eq, not_true_eq_false, slave, Bool.false_eq_true, followMaster, known, and_false,
    aligned, expected]
  rw [known] at taken
  exact taken _

/-- The only master of a cluster, and a slave that has just started. -/
def coldLink : Link where
  master := (clusterCheckMaster { clusterInit 7 2 1000 5 150 0 0 with time := 200 }).1
  slave := clusterInit 7 1 1000 5 150 0 0
  ended := false
  sent := []
  applied := []
  next := none
  toSlave := []
  toMaster := []

/-- The slave has received the master's first heartbeat. -/
def alignedLink : Link :=
  (coldLink.act (fun _ _ => true) (.heartbeat [0])).act (fun _ _ => true)
    (.receive ⟨.heartbeat (coldLink.master.nextHeartbeat [0]), 0, 1⟩)

theorem alignedLink_reachable :
    (system (fun _ _ => true) 0).ReachableUnder (fun link action => link.Young action ∧
      link.Near action) alignedLink := by
  have starts : Starts 0 coldLink :=
    ⟨rfl, rfl, rfl, rfl, .inl ⟨rfl, rfl⟩, rfl, rfl, rfl, rfl, rfl⟩
  refine .step (.receive ⟨.heartbeat (coldLink.master.nextHeartbeat [0]), 0, 1⟩)
    (.step (.heartbeat [0]) (.initial starts) ⟨trivial, trivial⟩ ⟨⟨rfl, trivial⟩, rfl⟩)
    ⟨?_, ?_⟩ ⟨⟨rfl, List.mem_cons_self⟩, rfl⟩
  · exact Nat.le_add_right 1 _
  · exact nofun

/-- One more heartbeat was sent and has not arrived. -/
def behindLink : Link := alignedLink.act (fun _ _ => true) (.heartbeat [1])

theorem behindLink_reachable :
    (system (fun _ _ => true) 0).ReachableUnder (fun link action => link.Young action ∧
      link.Near action) behindLink :=
  .step (.heartbeat [1]) alignedLink_reachable ⟨trivial, trivial⟩ ⟨⟨rfl, trivial⟩, rfl⟩

theorem replication_in_order_behind :
    (∃ start, ∀ place heartbeat, behindLink.applied[place]? = some heartbeat →
      behindLink.sent[start + place]? = some heartbeat ∧
        heartbeat.head.seq = (0 + (start + place)) % hbMaxSeq) ∧
      clusterCatchupSlave behindLink.master behindLink.slave.seqNumber 1 =
        (behindLink.sent.drop 1).map fun heartbeat => .send 1 (.heartbeat heartbeat) :=
  have result := replication_in_order (fun _ _ => true) 0 behindLink behindLink_reachable
  ⟨result.1, result.2 1 1 (by decide) rfl (by decide)⟩

/-- Without the bound on how far the slave falls behind, loss alone breaks the
order: `hbMaxSeq` heartbeats after the one the slave waits for, the next one
carries the expected number again. -/
theorem replication_skips :
    ∃ link : Link, (system (fun _ _ => true) 0).ReachableUnder Young link ∧
      ¬ ∃ start, ∀ place : Nat, ∀ heartbeat, link.applied[place]? = some heartbeat →
        link.sent[start + place]? = some heartbeat := by
  obtain ⟨later, arrived, lost⟩ := exists_lost (invariant_of_reachable alignedLink_reachable) rfl
    (alignedLink_reachable.weaken fun _ _ both => both.1) hbMaxSeq
  obtain ⟨hearts, sent, length, bare⟩ := lost.sent
  generalize opened : coldLink.master.nextHeartbeat [0] = opening
  have elements : opening.elements = [0] := by rw [← opened]; rfl
  have start : alignedLink.sent = [opening] := by rw [← opened]; rfl
  have spec := heartbeat_spec lost.invariant.master [1] (by decide) fun _ _ => true
  generalize sending : later.master.nextHeartbeat [1] = wrapping at spec
  have others : wrapping.elements = [1] := by rw [← sending]; rfl
  have count : later.sent.length = 1 + hbMaxSeq := by
    rw [sent, start, List.length_append, length, List.length_singleton]
  have numbered : wrapping.head.seq = 1 := by
    rw [← sending]
    change uint32 later.master.seqNumber = 1
    rw [lost.invariant.counter, uint32_seqOf, count, Nat.zero_add, Nat.add_mod_right]
    decide
  -- the slave still waits for number 1
  have loaded : loadsOf (processcluster (fun _ _ => true) later.slave (.heartbeat wrapping)
      (later.master.afterHeartbeat wrapping).myAddress).2 = [wrapping] := by
    change loadsOf (processcluster _ later.slave _ later.master.myAddress).2 = _
    have other : ¬ later.master.myAddress = later.slave.myAddress := by
      rw [lost.slave, lost.myAddress]
      decide
    simp only [processcluster, other, ↓reduceIte]
    refine loadsOf_clusterProcessHeartbeat _ ?_ ?_ ?_ ?_ ?_ ?_ ?_
    · rw [lost.slave]
      rfl
    · rw [← sending]
      rfl
    · rw [← sending]
      change 136 + 1 ≤ 8192
      omega
    · rw [← sending, lost.slave]
      exact lost.bindAddress
    · rw [lost.slave, lost.myAddress]
      rfl
    · rw [lost.slave]
      decide
    · rw [lost.slave, numbered]
      decide
  have sends : (system (fun _ _ => true) 0).ReachableUnder Young
      (later.act (fun _ _ => true) (.heartbeat [1])) :=
    .step (.heartbeat [1]) arrived trivial ⟨⟨lost.running, trivial⟩, rfl⟩
  rw [spec] at sends
  refine ⟨_, .step (.receive ⟨.heartbeat wrapping, _, later.sent.length + 1⟩) sends
    ?_ ⟨⟨lost.running, List.mem_append_right _ List.mem_cons_self⟩, rfl⟩, ?_⟩
  · change (later.sent ++ [wrapping]).length ≤ _
    rw [List.length_append, List.length_singleton]
    exact Nat.le_add_right _ _
  rintro ⟨place, contiguous⟩
  have applied : later.applied = [opening] := by
    rw [lost.applied, ← opened]
    rfl
  simp only [Link.act, slaveMoves, loaded, applied, sent, start] at contiguous
  have first := contiguous 0 opening rfl
  have second := contiguous 1 wrapping rfl
  -- only the first and the last heartbeat have elements
  have marked : ∀ index value, ([opening] ++ hearts ++ [wrapping])[index]? = some value →
      value.elements ≠ [] → index = 0 ∧ value = opening ∨ index = 1 + hearts.length := by
    intro index value present carries
    rcases Nat.lt_or_ge index ([opening] ++ hearts).length with inside | last
    · rw [List.getElem?_append_left inside] at present
      rcases index with _ | index
      · exact .inl ⟨rfl, by simpa using present.symm⟩
      · exact absurd (bare value (List.mem_of_getElem? present)) carries
    · have bound := (List.getElem?_eq_some_iff.mp present).1
      simp only [List.length_append, List.length_singleton] at bound last
      exact .inr (by omega)
  rcases marked _ _ second (by rw [others]; decide) with ⟨next, _⟩ | next
  · omega
  · rcases marked _ _ first (by rw [elements]; decide) with ⟨none_, _⟩ | last
    · rw [length] at next
      unfold hbMaxSeq at next
      omega
    · omega

end Link

end L2tpns.Cluster
