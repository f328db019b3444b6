import Mathlib.Data.Nat.ModEq
import L2tpns.Foundation.TransitionSystem
import L2tpns.Server.State

/-! # Byte counters of a session on a slave

A slave counts what it forwards twice: in the session, which the master's
updates overwrite, and in counters of its own, which go to the master with
C_BYTES. A slave that becomes master adds its own counters to the session. What
it forwarded since the last update is then in there twice, and what it had sent
before that update but the update did not include is not in there at all. The
counters are right exactly if the two amounts are equal
(`L2tpns.Cluster.Bytes.counted_once_iff`).
-/

namespace L2tpns.Cluster.Bytes

open Function

open Server (maxSession)

/-- To the network (`cin`, `pin`), or to the user (`cout`, `pout`). -/
inductive Direction where
  | inward
  | outward
deriving DecidableEq, Repr

/-- The counters of a session in one direction. -/
structure Traffic where
  packets : UInt32
  bytes : UInt32
  wrap : UInt32
  delta : UInt32
deriving DecidableEq, Repr

/-- An amount of traffic in one direction. -/
structure Usage where
  packets : UInt32
  bytes : UInt32
deriving DecidableEq, Repr

def Usage.zero : Usage := ⟨0, 0⟩

/-- Update a counter, accumulating wraps. -/
def incrementCounter (counter wrap delta : UInt32) : UInt32 × UInt32 :=
  let new := counter + delta
  (new, if new < counter then wrap + 1 else wrap)

def Traffic.add (traffic : Traffic) (usage : Usage) : Traffic :=
  let (bytes, wrap) := incrementCounter traffic.bytes traffic.wrap usage.bytes
  { packets := traffic.packets + usage.packets
    bytes := bytes
    wrap := wrap
    delta := traffic.delta + usage.bytes }

/-- The 64-bit value of a counter. -/
def Traffic.wide (traffic : Traffic) : Nat :=
  traffic.wrap.toNat * 2 ^ 32 + traffic.bytes.toNat

theorem Traffic.wide_lt (traffic : Traffic) : traffic.wide < 2 ^ 64 := by
  have wrap := traffic.wrap.toNat_lt
  have bytes := traffic.bytes.toNat_lt
  unfold Traffic.wide
  omega

@[simp] theorem Traffic.wide_mod (traffic : Traffic) :
    traffic.wide % 2 ^ 64 = traffic.wide :=
  Nat.mod_eq_of_lt traffic.wide_lt

theorem incrementCounter_wide (counter wrap delta : UInt32) :
    (incrementCounter counter wrap delta).2.toNat * 2 ^ 32 +
        (incrementCounter counter wrap delta).1.toNat =
      (wrap.toNat * 2 ^ 32 + counter.toNat + delta.toNat) % 2 ^ 64 := by
  have small := counter.toNat_lt
  have added := delta.toNat_lt
  have wraps := wrap.toNat_lt
  have one : (1 : UInt32).toNat = 1 := rfl
  have sum := UInt32.toNat_add counter delta
  unfold incrementCounter
  dsimp only
  by_cases carry : counter + delta < counter
  · rw [if_pos carry, UInt32.toNat_add, one, sum]
    rw [UInt32.lt_iff_toNat_lt, sum] at carry
    omega
  · rw [if_neg carry, sum]
    rw [UInt32.lt_iff_toNat_lt, sum] at carry
    omega

@[simp] theorem Traffic.add_wide (traffic : Traffic) (usage : Usage) :
    (traffic.add usage).wide = (traffic.wide + usage.bytes.toNat) % 2 ^ 64 :=
  incrementCounter_wide traffic.bytes traffic.wrap usage.bytes

/-- What the counters of a session are and what is read with them. -/
structure Counters where
  opened : Nat
  traffic : Direction → Traffic
  lastPacket : Nat
  lastData : Nat

def Counters.zero : Counters := ⟨0, fun _ => ⟨0, 0, 0, 0⟩, 0, 0⟩

def Counters.add (counters : Counters) (usage : Direction → Usage) : Counters :=
  { counters with traffic := fun d => (counters.traffic d).add (usage d) }

/-- One packet counted in one direction. -/
def packet (direction : Direction) (len : UInt32) (d : Direction) : Usage :=
  if d = direction then ⟨1, len⟩ else .zero

/-- An element of a C_BYTES message. -/
structure BytesRecord where
  sid : Nat
  usage : Direction → Usage

/-- The session table of a slave, its own counters and what the walk over them
reads. -/
structure Slave where
  session : Nat → Counters
  sessLocal : Nat → Direction → Usage
  highestSessionid : Nat
  walkSessionNumber : Nat
  masterAddress : Nat
  timeNow : Nat

namespace Slave

/-- Count a packet in a session. -/
def addSession (slave : Slave) (direction : Direction) (s : Nat) (len : UInt32) : Slave :=
  { slave with session :=
      Function.update slave.session s ((slave.session s).add (packet direction len)) }

/-- Count a packet in the counters that go to the master. -/
def addLocal (slave : Slave) (direction : Direction) (s : Nat) (len : UInt32) : Slave :=
  { slave with sessLocal := Function.update slave.sessLocal s fun d =>
      ⟨(slave.sessLocal s d).packets + (packet direction len d).packets,
        (slave.sessLocal s d).bytes + (packet direction len d).bytes⟩ }

/-- Data of the session has just passed. -/
def touch (slave : Slave) (s : Nat) : Slave :=
  let touched := { slave.session s with lastData := slave.timeNow }
  { slave with session := Function.update slave.session s touched }

/-- Count the frames that a packet from the user came in: one, or the fragments
of one. -/
def updateSessionsInStat (slave : Slave) (frames : List (Nat × UInt32)) : Slave :=
  frames.foldl (fun slave (s, len) => (slave.addSession .inward s len).addLocal .inward s len)
    slave

def updateSessionOutStat (slave : Slave) (s : Nat) (len : UInt32) : Slave :=
  ((slave.addSession .outward s len).touch s).addLocal .outward s len

/-- The counting of `processipout`, for the frames it sends the packet in. The
session of the last one counts the packet once more. -/
def processipout (slave : Slave) (frames : List (Nat × UInt32)) (s : Nat) (len : UInt32) : Slave :=
  (frames.foldl (fun slave (s, len) => slave.updateSessionOutStat s len) slave).addSession
    .outward s len

/-- The counting of `processipv6out`, and of packets that leave a token bucket. -/
def processipv6out (slave : Slave) (s : Nat) (len : UInt32) : Slave :=
  (slave.addSession .outward s len).addLocal .outward s len

def maxBRecs : Nat := 600

/-- Look at `i` sessions, and take the counters of those that have counted
something until the message is full. -/
def walkCounts : Nat → Slave → List BytesRecord → Slave × List BytesRecord
  | 0, slave, b => (slave, b)
  | i + 1, slave, b =>
      let next := slave.walkSessionNumber + 1
      let number := if next > slave.highestSessionid then 1 else next
      let walked := { slave with walkSessionNumber := number }
      if (slave.sessLocal number .inward).bytes = 0 ∧
          (slave.sessLocal number .outward).bytes = 0 then
        walkCounts i walked b
      else
        let b := b ++ [⟨number, slave.sessLocal number⟩]
        let reset := { walked with
          sessLocal := Function.update slave.sessLocal number fun _ => .zero }
        if b.length > maxBRecs then (reset, b) else walkCounts i reset b

/-- The counters for the master. No message is sent when there are none. -/
def masterUpdateCounts (slave : Slave) : Slave × List BytesRecord :=
  if slave.masterAddress = 0 then (slave, [])
  else
    let i := maxBRecs * 5
    walkCounts (if slave.highestSessionid > i then slave.highestSessionid else i) slave []

/-- The session that a slave keeps when it becomes master: idle timeouts start
again, and its own counters are added. -/
def takeSession (slave : Slave) (s : Nat) : Counters :=
  if (slave.session s).opened = 0 then .zero
  else
    { (slave.session s).add (slave.sessLocal s) with
      lastPacket := slave.timeNow
      lastData := slave.timeNow }

/-- The walk over the session table in `cluster_check_master`, of a slave that
becomes master. -/
def clusterCheckMaster (slave : Slave) : Slave :=
  { slave with
    session := fun s => if s < maxSession then slave.takeSession s else slave.session s
    sessLocal := fun s =>
      if s < maxSession ∧ (slave.session s).opened ≠ 0 then fun _ => .zero
      else slave.sessLocal s }

end Slave

/-- Counters that have just moved keep the session from being idle. -/
def Counters.handle (counters : Counters) (usage : Direction → Usage) (timeNow : Nat) : Counters :=
  let counters := counters.add usage
  if (usage .inward).bytes ≠ 0 then
    { counters with lastPacket := timeNow, lastData := timeNow }
  else if (usage .outward).bytes ≠ 0 then { counters with lastData := timeNow }
  else counters

/-- Add the elements of a C_BYTES message to the sessions, up to the first
element with an id beyond the table. -/
def clusterHandleBytes (timeNow : Nat) :
    (Nat → Counters) → List BytesRecord → (Nat → Counters)
  | session, [] => session
  | session, b :: rest =>
      if b.sid > maxSession then session
      else
        clusterHandleBytes timeNow
          (Function.update session b.sid ((session b.sid).handle b.usage timeNow)) rest

/-- The elements of a message that `clusterHandleBytes` adds. -/
def handled (b : List BytesRecord) : List BytesRecord :=
  b.takeWhile fun b => b.sid ≤ maxSession

/-- The bytes of a session in a message. -/
def bytesOf (s : Nat) (d : Direction) (b : List BytesRecord) : Nat :=
  (b.map fun b => if b.sid = s then (b.usage d).bytes.toNat else 0).sum

theorem bytesOf_nil (s : Nat) (d : Direction) : bytesOf s d [] = 0 := rfl

theorem bytesOf_cons (s : Nat) (d : Direction) (element : BytesRecord) (b : List BytesRecord) :
    bytesOf s d (element :: b) =
      (if element.sid = s then (element.usage d).bytes.toNat else 0) + bytesOf s d b := by
  unfold bytesOf
  rw [List.map_cons, List.sum_cons]

theorem bytesOf_append (s : Nat) (d : Direction) (b more : List BytesRecord) :
    bytesOf s d (b ++ more) = bytesOf s d b + bytesOf s d more := by
  unfold bytesOf
  rw [List.map_append, List.sum_append]

theorem bytesOf_handled_le (s : Nat) (d : Direction) (b : List BytesRecord) :
    bytesOf s d (handled b) ≤ bytesOf s d b := by
  have split := bytesOf_append s d (handled b) (b.dropWhile fun b => b.sid ≤ maxSession)
  unfold handled at split ⊢
  rw [List.takeWhile_append_dropWhile] at split
  omega

namespace Slave

variable (slave : Slave)

/-- The 64-bit value of a counter of the session. -/
def wide (s : Nat) (d : Direction) : Nat := ((slave.session s).traffic d).wide

@[simp] theorem wide_mod (s : Nat) (d : Direction) : slave.wide s d % 2 ^ 64 = slave.wide s d :=
  Traffic.wide_mod _

/-- The bytes of a session that are not sent to the master yet. -/
def unsent (s : Nat) (d : Direction) : Nat := (slave.sessLocal s d).bytes.toNat

end Slave

/-- The bytes of a packet of session `s'`, seen from session `s`. -/
def bytesIn (direction : Direction) (s' : Nat) (len : UInt32) (s : Nat) (d : Direction) : Nat :=
  if s = s' ∧ d = direction then len.toNat else 0

/-- The bytes of frames, seen from session `s`. -/
def framesIn (direction : Direction) (frames : List (Nat × UInt32)) (s : Nat) (d : Direction) :
    Nat :=
  (frames.map fun (s', len) => bytesIn direction s' len s d).sum

/-- A step adds `session` to the counters of the sessions, and no more than
`own` to the counters that go to the master. -/
structure Counts (session own : Nat → Direction → Nat) (slave next : Slave) : Prop where
  wide : ∀ s d, next.wide s d = (slave.wide s d + session s d) % 2 ^ 64
  unsent : ∀ s d, next.unsent s d ≤ slave.unsent s d + own s d

namespace Counts

variable {slave middle next : Slave} {session own session' own' : Nat → Direction → Nat}

theorem refl : Counts (fun _ _ => 0) (fun _ _ => 0) slave slave where
  wide s d := by rw [Nat.add_zero, Slave.wide_mod]
  unsent _ _ := Nat.le_refl _

theorem trans (first : Counts session own slave middle)
    (second : Counts session' own' middle next) :
    Counts (fun s d => session s d + session' s d) (fun s d => own s d + own' s d) slave next where
  wide s d := by rw [second.wide, first.wide, Nat.mod_add_mod, Nat.add_assoc]
  unsent s d := by
    have before := first.unsent s d
    have after := second.unsent s d
    omega

theorem addSession (direction : Direction) (s : Nat) (len : UInt32) :
    Counts (bytesIn direction s len) (fun _ _ => 0) slave (slave.addSession direction s len) where
  wide s' d := by
    unfold Slave.wide Slave.addSession bytesIn
    dsimp only
    by_cases same : s' = s
    · rw [same, update_self]
      change (((slave.session s).traffic d).add (packet direction len d)).wide = _
      rw [Traffic.add_wide]
      unfold packet
      by_cases along : d = direction
      · rw [if_pos along, if_pos ⟨rfl, along⟩]
      · rw [if_neg along, if_neg fun both => along both.2]
        rfl
    · rw [update_of_ne same, if_neg fun both => same both.1, Nat.add_zero,
        Traffic.wide_mod]
  unsent _ _ := Nat.le_refl _

theorem touch (s : Nat) : Counts (fun _ _ => 0) (fun _ _ => 0) slave (slave.touch s) where
  wide s' d := by
    unfold Slave.wide Slave.touch
    dsimp only
    rw [Nat.add_zero, Traffic.wide_mod]
    by_cases same : s' = s
    · rw [same, update_self]
    · rw [update_of_ne same]
  unsent _ _ := Nat.le_refl _

theorem addLocal (direction : Direction) (s : Nat) (len : UInt32) :
    Counts (fun _ _ => 0) (bytesIn direction s len) slave (slave.addLocal direction s len) where
  wide s' d := by
    rw [Nat.add_zero]
    exact (slave.wide_mod s' d).symm
  unsent s' d := by
    unfold Slave.unsent Slave.addLocal bytesIn
    dsimp only
    by_cases same : s' = s
    · rw [same, update_self, UInt32.toNat_add]
      unfold packet
      by_cases along : d = direction
      · rw [if_pos along, if_pos ⟨rfl, along⟩]
        exact Nat.mod_le _ _
      · rw [if_neg along, if_neg fun both => along both.2]
        exact Nat.mod_le _ _
    · rw [update_of_ne same, if_neg fun both => same both.1]
      exact Nat.le_refl _

theorem processipv6out (s : Nat) (len : UInt32) :
    Counts (bytesIn .outward s len) (bytesIn .outward s len) slave
      (slave.processipv6out s len) := by
  have counts := (@addSession slave .outward s len).trans (addLocal .outward s len)
  simp only [Nat.add_zero, Nat.zero_add] at counts
  exact counts

theorem updateSessionOutStat (s : Nat) (len : UInt32) :
    Counts (bytesIn .outward s len) (bytesIn .outward s len) slave
      (slave.updateSessionOutStat s len) := by
  have counts := ((@addSession slave .outward s len).trans (touch s)).trans
    (addLocal .outward s len)
  simp only [Nat.add_zero, Nat.zero_add] at counts
  exact counts

theorem frames {count : Slave → Nat × UInt32 → Slave} (direction : Direction)
    (each : ∀ slave s len, Counts (bytesIn direction s len) (bytesIn direction s len) slave
      (count slave (s, len))) (frames : List (Nat × UInt32)) :
    Counts (framesIn direction frames) (framesIn direction frames) slave
      (frames.foldl count slave) := by
  induction frames generalizing slave with
  | nil => exact .refl
  | cons frame rest ih =>
      have counts := (each slave frame.1 frame.2).trans (@ih (count slave frame))
      unfold framesIn at counts ⊢
      simp only [List.map_cons, List.sum_cons, List.foldl_cons]
      exact counts

theorem updateSessionsInStat (frames : List (Nat × UInt32)) :
    Counts (framesIn .inward frames) (framesIn .inward frames) slave
      (slave.updateSessionsInStat frames) := by
  apply Counts.frames
  intro slave s len
  have counts := (@addSession slave .inward s len).trans (addLocal .inward s len)
  simp only [Nat.add_zero, Nat.zero_add] at counts
  exact counts

theorem processipout (frames : List (Nat × UInt32)) (s : Nat) (len : UInt32) :
    Counts (fun s' d => framesIn .outward frames s' d + bytesIn .outward s len s' d)
      (framesIn .outward frames) slave (slave.processipout frames s len) :=
  (Counts.frames .outward (fun _ s len => updateSessionOutStat s len) frames).trans
    (addSession .outward s len)

end Counts

namespace Slave

theorem walkCounts_spec (i : Nat) (slave : Slave) (b : List BytesRecord) :
    (walkCounts i slave b).1.session = slave.session ∧
      ∀ s d, (walkCounts i slave b).1.unsent s d + bytesOf s d (walkCounts i slave b).2 =
        slave.unsent s d + bytesOf s d b := by
  induction i generalizing slave b with
  | zero => exact ⟨rfl, fun _ _ => rfl⟩
  | succ i ih =>
      unfold walkCounts
      dsimp only
      generalize (if slave.walkSessionNumber + 1 > slave.highestSessionid then 1
        else slave.walkSessionNumber + 1) = number
      by_cases idle : (slave.sessLocal number .inward).bytes = 0 ∧
          (slave.sessLocal number .outward).bytes = 0
      · rw [if_pos idle]
        exact ih _ _
      · rw [if_neg idle]
        have moved (s : Nat) (d : Direction) :
            (update slave.sessLocal number (fun _ => Usage.zero) s d).bytes.toNat +
                bytesOf s d (b ++ [⟨number, slave.sessLocal number⟩]) =
              slave.unsent s d + bytesOf s d b := by
          rw [bytesOf_append, bytesOf_cons, bytesOf_nil, Nat.add_zero]
          unfold Slave.unsent
          by_cases same : s = number
          · rw [same, update_self, if_pos rfl]
            exact (Nat.zero_add _).trans (Nat.add_comm _ _)
          · rw [update_of_ne same, if_neg (Ne.symm same), Nat.add_zero]
        by_cases full :
            (b ++ [BytesRecord.mk number (slave.sessLocal number)]).length > maxBRecs
        · rw [if_pos full]
          exact ⟨rfl, moved⟩
        · rw [if_neg full]
          have rest := ih { slave with
            walkSessionNumber := number
            sessLocal := update slave.sessLocal number fun _ => .zero }
            (b ++ [⟨number, slave.sessLocal number⟩])
          exact ⟨rest.1, fun s d => (rest.2 s d).trans (moved s d)⟩

theorem masterUpdateCounts_session (slave : Slave) :
    slave.masterUpdateCounts.1.session = slave.session := by
  unfold masterUpdateCounts
  by_cases alone : slave.masterAddress = 0
  · rw [if_pos alone]
  · rw [if_neg alone]
    exact (walkCounts_spec _ slave []).1

theorem masterUpdateCounts_unsent (slave : Slave) (s : Nat) (d : Direction) :
    slave.masterUpdateCounts.1.unsent s d + bytesOf s d slave.masterUpdateCounts.2 =
      slave.unsent s d := by
  unfold masterUpdateCounts
  by_cases alone : slave.masterAddress = 0
  · rw [if_pos alone, bytesOf_nil, Nat.add_zero]
  · rw [if_neg alone]
    exact ((walkCounts_spec _ slave []).2 s d).trans (Nat.add_zero _)

theorem clusterCheckMaster_wide (slave : Slave) {s : Nat} (below : s < maxSession)
    (opened : (slave.session s).opened ≠ 0) (d : Direction) :
    slave.clusterCheckMaster.wide s d = (slave.wide s d + slave.unsent s d) % 2 ^ 64 := by
  unfold wide clusterCheckMaster
  dsimp only
  rw [if_pos below]
  unfold takeSession
  rw [if_neg opened]
  exact Traffic.add_wide _ _

end Slave

/-- A session that the master sends. How many bytes of the slave the master had
counted by then is history. -/
structure Update where
  id : Nat
  counters : Counters
  included : Direction → Nat

/-- The last update of a session that the slave received, with what it had
forwarded, and counted a second time, when it did. -/
structure Received where
  counters : Counters
  included : Direction → Nat
  forwarded : Direction → Nat
  repeated : Direction → Nat

/-- A slave, the session table of its master, the C_BYTES messages that have not
arrived and all updates ever sent. The rest is history: the bytes that the slave
has forwarded, those that `processipout` counted a second time, those that the
master has counted, and the last updates. -/
structure Run where
  slave : Slave
  master : Nat → Counters
  messages : List (List BytesRecord)
  updates : List Update
  forwarded : Nat → Direction → Nat
  repeated : Nat → Direction → Nat
  included : Nat → Direction → Nat
  last : Nat → Received

/-- The master goes on with its sessions in any way it likes. -/
inductive Action where
  | processipin (frames : List (Nat × UInt32))
  | processipout (frames : List (Nat × UInt32)) (s : Nat) (len : UInt32)
  | processipv6out (s : Nat) (len : UInt32)
  | masterUpdateCounts
  | clusterHandleBytes (before after : List (List BytesRecord)) (b : List BytesRecord)
      (timeNow : Nat)
  | serve (session : Nat → Counters)
  | sendSession (s : Nat)
  | recvSession (update : Update)
  | learn (highestSessionid masterAddress timeNow : Nat)

namespace Run

/-- Messages arrive once, in any order; updates arrive at any time. -/
def enabled (run : Run) : Action → Prop
  | .clusterHandleBytes before after b _ => run.messages = before ++ b :: after
  | .recvSession update => update ∈ run.updates
  | _ => True

def act (run : Run) : Action → Run
  | .processipin frames =>
      { run with
        slave := run.slave.updateSessionsInStat frames
        forwarded := fun s d => run.forwarded s d + framesIn .inward frames s d }
  | .processipout frames s len =>
      { run with
        slave := run.slave.processipout frames s len
        forwarded := fun s d => run.forwarded s d + framesIn .outward frames s d
        repeated := fun s' d => run.repeated s' d + bytesIn .outward s len s' d }
  | .processipv6out s len =>
      { run with
        slave := run.slave.processipv6out s len
        forwarded := fun s' d => run.forwarded s' d + bytesIn .outward s len s' d }
  | .masterUpdateCounts =>
      let (slave, b) := run.slave.masterUpdateCounts
      { run with slave := slave, messages := if b = [] then run.messages else run.messages ++ [b] }
  | .clusterHandleBytes before after b timeNow =>
      { run with
        master := clusterHandleBytes timeNow run.master b
        messages := before ++ after
        included := fun s d => run.included s d + bytesOf s d (handled b) }
  | .serve session => { run with master := session }
  | .sendSession s =>
      { run with updates := ⟨s, run.master s, run.included s⟩ :: run.updates }
  | .recvSession update =>
      { run with
        slave := { run.slave with
          session := Function.update run.slave.session update.id update.counters }
        last := Function.update run.last update.id
          ⟨update.counters, update.included, run.forwarded update.id, run.repeated update.id⟩ }
  | .learn highestSessionid masterAddress timeNow =>
      { run with slave := { run.slave with
          highestSessionid := highestSessionid
          masterAddress := masterAddress
          timeNow := timeNow } }

/-- Nothing is forwarded yet, and the session table is that of the last
updates. -/
structure Starts (run : Run) : Prop where
  unsent : ∀ s d, run.slave.sessLocal s d = .zero
  messages : run.messages = []
  updates : run.updates = []
  forwarded : ∀ s d, run.forwarded s d = 0
  repeated : ∀ s d, run.repeated s d = 0
  included : ∀ s d, run.included s d = 0
  last : ∀ s, run.last s = ⟨run.slave.session s, fun _ => 0, fun _ => 0, fun _ => 0⟩

def system : Foundation.TransitionSystem Run Action where
  initial := Starts
  step run action next := run.enabled action ∧ next = run.act action

/-- The bytes of a session on their way to the master. -/
def inFlight (run : Run) (s : Nat) (d : Direction) : Nat :=
  (run.messages.map (bytesOf s d)).sum

structure Invariant (run : Run) : Prop where
  value : ∀ s d, run.slave.wide s d =
    (((run.last s).counters.traffic d).wide + (run.forwarded s d - (run.last s).forwarded d) +
      (run.repeated s d - (run.last s).repeated d)) % 2 ^ 64
  older : ∀ s d, (run.last s).forwarded d ≤ run.forwarded s d ∧
    (run.last s).repeated d ≤ run.repeated s d
  accounted : ∀ s d, run.included s d + run.inFlight s d + run.slave.unsent s d ≤ run.forwarded s d
  sent : ∀ update ∈ run.updates, ∀ d, update.included d ≤ run.included update.id d
  heard : ∀ s d, (run.last s).included d ≤ (run.last s).forwarded d

namespace Invariant

variable {run : Run}

theorem start (starts : Starts run) : Invariant run where
  value s d := by
    rw [starts.last, starts.forwarded, starts.repeated, Nat.sub_self, Nat.add_zero]
    exact (run.slave.wide_mod s d).symm
  older s d := by
    rw [starts.last]
    exact ⟨Nat.zero_le _, Nat.zero_le _⟩
  accounted s d := by
    unfold Run.inFlight Slave.unsent
    rw [starts.unsent, starts.messages, starts.included, starts.forwarded]
    exact Nat.le_refl 0
  sent update member := by
    rw [starts.updates] at member
    cases member
  heard s d := by
    rw [starts.last]

theorem counts (invariant : Invariant run) {next : Slave} (amount extra : Nat → Direction → Nat)
    (counted : Counts (fun s d => amount s d + extra s d) amount run.slave next) :
    Invariant { run with
      slave := next
      forwarded := fun s d => run.forwarded s d + amount s d
      repeated := fun s d => run.repeated s d + extra s d } where
  value s d := by
    have older := invariant.older s d
    dsimp only
    rw [counted.wide, invariant.value, Nat.mod_add_mod, Nat.sub_add_comm older.1,
      Nat.sub_add_comm older.2]
    ac_rfl
  older s d := by
    have older := invariant.older s d
    exact ⟨Nat.le_add_right_of_le older.1, Nat.le_add_right_of_le older.2⟩
  accounted s d := by
    have accounted := invariant.accounted s d
    have unsent := counted.unsent s d
    change run.included s d + run.inFlight s d + next.unsent s d ≤ run.forwarded s d + amount s d
    omega
  sent := invariant.sent
  heard := invariant.heard

theorem masterUpdateCounts (invariant : Invariant run) :
    Invariant (run.act .masterUpdateCounts) where
  value s d := by
    have same : (run.act .masterUpdateCounts).slave.wide s d = run.slave.wide s d := by
      change ((run.slave.masterUpdateCounts.1.session s).traffic d).wide = _
      rw [run.slave.masterUpdateCounts_session]
      rfl
    rw [same]
    exact invariant.value s d
  older := invariant.older
  accounted s d := by
    have accounted := invariant.accounted s d
    have moved := run.slave.masterUpdateCounts_unsent s d
    have sent : (run.act .masterUpdateCounts).inFlight s d =
        run.inFlight s d + bytesOf s d run.slave.masterUpdateCounts.2 := by
      unfold Run.inFlight Run.act
      dsimp only
      by_cases empty : run.slave.masterUpdateCounts.2 = []
      · rw [if_pos empty, empty, bytesOf_nil, Nat.add_zero]
      · rw [if_neg empty, List.map_append, List.sum_append, List.map_singleton, List.sum_singleton]
    change run.included s d + (run.act .masterUpdateCounts).inFlight s d +
      run.slave.masterUpdateCounts.1.unsent s d ≤ run.forwarded s d
    omega
  sent := invariant.sent
  heard := invariant.heard

theorem clusterHandleBytes (invariant : Invariant run) {before after : List (List BytesRecord)}
    {b : List BytesRecord} (present : run.messages = before ++ b :: after) (timeNow : Nat) :
    Invariant (run.act (.clusterHandleBytes before after b timeNow)) where
  value := invariant.value
  older := invariant.older
  accounted s d := by
    have accounted := invariant.accounted s d
    have added := bytesOf_handled_le s d b
    unfold Run.inFlight at accounted
    rw [present, List.map_append, List.map_cons, List.sum_append, List.sum_cons] at accounted
    change run.included s d + bytesOf s d (handled b) +
      ((before ++ after).map (bytesOf s d)).sum + run.slave.unsent s d ≤ run.forwarded s d
    rw [List.map_append, List.sum_append]
    omega
  sent update member d := Nat.le_add_right_of_le (invariant.sent update member d)
  heard := invariant.heard

theorem sendSession (invariant : Invariant run) (s : Nat) :
    Invariant (run.act (.sendSession s)) where
  value := invariant.value
  older := invariant.older
  accounted := invariant.accounted
  sent update member d := by
    rcases List.mem_cons.mp member with new | old
    · rw [new]
      exact Nat.le_refl _
    · exact invariant.sent update old d
  heard := invariant.heard

theorem recvSession (invariant : Invariant run) {update : Update} (present : update ∈ run.updates) :
    Invariant (run.act (.recvSession update)) where
  value s d := by
    unfold Run.act Slave.wide
    dsimp only
    by_cases same : s = update.id
    · rw [same, update_self, update_self]
      dsimp only
      rw [Nat.sub_self, Nat.sub_self, Nat.add_zero, Traffic.wide_mod]
    · rw [update_of_ne same, update_of_ne same]
      exact invariant.value s d
  older s d := by
    unfold Run.act
    dsimp only
    by_cases same : s = update.id
    · rw [same, update_self]
      exact ⟨Nat.le_refl _, Nat.le_refl _⟩
    · rw [update_of_ne same]
      exact invariant.older s d
  accounted := invariant.accounted
  sent := invariant.sent
  heard s d := by
    unfold Run.act
    dsimp only
    by_cases same : s = update.id
    · rw [same, update_self]
      have sent := invariant.sent update present d
      have accounted := invariant.accounted update.id d
      dsimp only
      omega
    · rw [update_of_ne same]
      exact invariant.heard s d

theorem act (invariant : Invariant run) {action : Action} (enabled : run.enabled action) :
    Invariant (run.act action) := by
  cases action with
  | processipin frames =>
      exact invariant.counts (framesIn .inward frames) (fun _ _ => 0)
        (Counts.updateSessionsInStat frames)
  | processipout frames s len =>
      exact invariant.counts (framesIn .outward frames) (bytesIn .outward s len)
        (Counts.processipout frames s len)
  | processipv6out s len =>
      exact invariant.counts (bytesIn .outward s len) (fun _ _ => 0)
        (Counts.processipv6out s len)
  | masterUpdateCounts => exact invariant.masterUpdateCounts
  | clusterHandleBytes before after b timeNow => exact invariant.clusterHandleBytes enabled timeNow
  | serve session => exact ⟨invariant.value, invariant.older, invariant.accounted,
      invariant.sent, invariant.heard⟩
  | sendSession s => exact invariant.sendSession s
  | recvSession update => exact invariant.recvSession enabled
  | learn highestSessionid masterAddress timeNow => exact ⟨invariant.value, invariant.older,
      invariant.accounted, invariant.sent, invariant.heard⟩

end Invariant

theorem invariant_of_reachable {run : Run} (reached : system.Reachable run) : Invariant run :=
  reached.invariant (fun _ => Invariant.start) fun run action next holds moves => by
    rw [moves.2]
    exact holds.act moves.1

variable (run : Run) (s : Nat) (d : Direction)

/-- The bytes forwarded by the slave that the last update does not include. -/
def missing : Nat := run.forwarded s d - (run.last s).included d

/-- Those among them that the slave had forwarded when it received the update. -/
def late : Nat := (run.last s).forwarded d - (run.last s).included d

/-- The bytes counted a second time since the last update. -/
def repeatedSince : Nat := run.repeated s d - (run.last s).repeated d

end Run

/-- When the slave becomes master, a counter of an open session is that of the
last update and the slave's bytes not included in it exactly if the slave's own
counter, with what was counted a second time since the update, is as much as the
slave had forwarded before the update arrived that the update did not include. -/
theorem counted_once_iff (run : Run) (reached : Run.system.Reachable run) (s : Nat)
    (below : s < maxSession) (opened : (run.slave.session s).opened ≠ 0) (d : Direction) :
    run.slave.clusterCheckMaster.wide s d =
        (((run.last s).counters.traffic d).wide + run.missing s d) % 2 ^ 64 ↔
      run.slave.unsent s d + run.repeatedSince s d ≡ run.late s d [MOD 2 ^ 64] := by
  have invariant := Run.invariant_of_reachable reached
  have older := invariant.older s d
  have heard := invariant.heard s d
  have parts : run.missing s d =
      (run.forwarded s d - (run.last s).forwarded d) + run.late s d := by
    unfold Run.missing Run.late
    omega
  rw [run.slave.clusterCheckMaster_wide below opened, invariant.value, Nat.mod_add_mod, parts]
  unfold Run.repeatedSince Nat.ModEq
  omega

namespace Run

/-- Session 5 is open, with 1000 bytes from the user. -/
def counted : Counters :=
  { opened := 1
    traffic := fun
      | .inward => ⟨1, 1000, 0, 0⟩
      | .outward => ⟨0, 0, 0, 0⟩
    lastPacket := 0
    lastData := 0 }

def known (s : Nat) : Counters := if s = 5 then counted else .zero

/-- A slave that knows what its master knows. -/
def quiet : Run where
  slave := ⟨known, fun _ _ => .zero, 5, 0, 1, 0⟩
  master := known
  messages := []
  updates := []
  forwarded := fun _ _ => 0
  repeated := fun _ _ => 0
  included := fun _ _ => 0
  last s := ⟨known s, fun _ => 0, fun _ => 0, fun _ => 0⟩

theorem quiet_starts : Starts quiet :=
  ⟨fun _ _ => rfl, rfl, rfl, fun _ _ => rfl, fun _ _ => rfl, fun _ _ => rfl, fun _ => rfl⟩

/-- The slave forwards a packet of 100 bytes. -/
def busy : Run := quiet.act (.processipin [(5, 100)])

theorem busy_reachable : system.Reachable busy :=
  .step (.processipin [(5, 100)]) (.initial quiet_starts) trivial ⟨trivial, rfl⟩

/-- The master sends the session as it knows it. -/
def told : Run := busy.act (.sendSession 5)

def late5 : Update := ⟨5, counted, fun _ => 0⟩

/-- An update that does not include the packet overwrites the session. -/
def overwritten : Run := told.act (.recvSession late5)

theorem overwritten_reachable : system.Reachable overwritten :=
  .step (.recvSession late5)
    (.step (.sendSession 5) busy_reachable trivial ⟨trivial, rfl⟩) trivial
    ⟨List.mem_cons_self, rfl⟩

end Run

theorem counted_once_overwritten :
    Run.overwritten.slave.clusterCheckMaster.wide 5 .inward =
      (1000 + Run.overwritten.missing 5 .inward) % 2 ^ 64 :=
  (counted_once_iff Run.overwritten Run.overwritten_reachable 5 (by decide) (by decide)
    .inward).mpr rfl

/-- A packet forwarded after the last update is counted twice: 1200 bytes. -/
theorem counted_twice :
    ¬ ∀ run, Run.system.Reachable run → ∀ s < maxSession, (run.slave.session s).opened ≠ 0 →
      ∀ d, run.slave.clusterCheckMaster.wide s d =
        (((run.last s).counters.traffic d).wide + run.missing s d) % 2 ^ 64 := by
  intro once
  have equal := once Run.busy Run.busy_reachable 5 (by decide) (by decide) .inward
  rw [Slave.clusterCheckMaster_wide _ (by decide) (by decide)] at equal
  revert equal
  decide

end L2tpns.Cluster.Bytes
