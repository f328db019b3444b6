import L2tpns.Server.Throttle

/-! # Packets of throttled sessions

A slave sends the packets of a throttled session to its master, with nothing but the id of a
bucket from its copy of the session. The master puts them into that bucket, to which another
session may have got since. A packet goes to its own session, in its own direction, if the
bucket is still that of the session whenever a message arrives, and no bucket with packets
still names a slot in which a session is created (`L2tpns.Cluster.Throttled.packets_right`).
-/

namespace L2tpns.Cluster.Throttled

open Server.Throttle

/-- The session that a packet is for: its slot, which of the sessions in that slot it is, and the
direction. -/
structure Origin where
  session : Nat
  incarnation : Nat
  direction : Direction
deriving DecidableEq, Repr

/-- A C_THROTTLE message. The origin of the packet is history. -/
structure Message where
  tbfid : Nat
  size : Nat
  origin : Origin
deriving DecidableEq

/-- What a slave has of a session. Which session of the slot it is, is history. -/
structure Copy where
  tbf : Direction → Nat
  incarnation : Nat

/-- A packet that was sent, and the session that was in the slot. -/
structure Delivery where
  sent : Sent (Option Origin)
  incarnation : Nat

/-- A master and a slave, the updates of sessions and the messages that have not arrived. The
packets of the master have no origin. The rest is history: how many sessions were created in
each slot, and the packets that were sent. -/
structure Pair where
  master : State (Option Origin)
  slave : Nat → Copy
  updates : List (Nat × Copy)
  messages : List Message
  incarnation : Nat → Nat
  log : List Delivery

inductive Event where
  | master (event : Server.Throttle.Event)
  | tick (time : Int)
  | sendSession (s : Nat)
  | recvSession (before after : List (Nat × Copy)) (s : Nat) (copy : Copy)
  | forward (s : Nat) (d : Direction) (size : Nat)
  | deliver (before after : List Message) (message : Message)
  | queue (id size : Nat)
  | runTimer

namespace Pair

variable (pair : Pair)

/-- The buckets have sent some packets. -/
def record (result : Tbfs (Option Origin) × List (Sent (Option Origin))) : Pair :=
  { pair with
    master := { pair.master with tbfs := result.1 }
    log := pair.log ++ result.2.map fun sent => ⟨sent, pair.incarnation sent.sid⟩ }

/-- Another session comes to a slot when it is created. -/
def incarnate : Server.Throttle.Event → Nat → Nat
  | .create s _ => Function.update pair.incarnation s (pair.incarnation s + 1)
  | _ => pair.incarnation

/-- Messages and updates arrive once, in any order. -/
def enabled : Event → Prop
  | .master event => event.Enabled pair.master
  | .recvSession before after s copy => pair.updates = before ++ (s, copy) :: after
  | .forward s d _ => (pair.slave s).tbf d ≠ 0
  | .deliver before after message => pair.messages = before ++ message :: after
  | _ => True

def act : Event → Pair
  | .master event =>
      { pair with master := pair.master.act event, incarnation := pair.incarnate event }
  | .tick time => { pair with master := { pair.master with
      tbfs := { pair.master.tbfs with time := time } } }
  | .sendSession s =>
      { pair with
        updates := pair.updates ++ [(s, ⟨(pair.master.session s).tbf, pair.incarnation s⟩)] }
  | .recvSession before after s copy =>
      { pair with slave := Function.update pair.slave s copy, updates := before ++ after }
  | .forward s d size =>
      let message := ⟨(pair.slave s).tbf d, size, ⟨s, (pair.slave s).incarnation, d⟩⟩
      { pair with messages := pair.messages ++ [message] }
  | .deliver before after message =>
      { pair.record (pair.master.tbfs.tbfQueuePacket message.tbfid
          ⟨message.size, some message.origin⟩) with messages := before ++ after }
  | .queue id size => pair.record (pair.master.tbfs.tbfQueuePacket id ⟨size, none⟩)
  | .runTimer => pair.record pair.master.tbfs.tbfRunTimer

/-- A new master, whose buckets are not in use. -/
structure Starts : Prop where
  master : (Server.Throttle.system (Option Origin)).initial pair.master
  queues : ∀ id, (pair.master.tbfs.bucket id).queue = []
  timerChain : pair.master.tbfs.timerChain = []
  messages : pair.messages = []
  log : pair.log = []

end Pair

def system : Foundation.TransitionSystem Pair Event where
  initial := Pair.Starts
  step pair event next := pair.enabled event ∧ next = pair.act event

/-- The packet was sent to its own session, in its own direction. -/
def Delivery.Right (delivery : Delivery) : Prop :=
  ∀ origin, delivery.sent.data = some origin →
    delivery.sent.sid = origin.session ∧ delivery.sent.direction = origin.direction ∧
      delivery.incarnation = origin.incarnation

/-- All packets from the slave that were sent went to their sessions. -/
def Pair.AllRight (pair : Pair) : Prop := ∀ delivery ∈ pair.log, delivery.Right

/-- A bucket is that of the session and the direction that a packet is for. -/
def Pair.Fits (pair : Pair) (id : Nat) (origin : Origin) : Prop :=
  (pair.master.tbfs.bucket id).sid = origin.session ∧
    (pair.master.tbfs.bucket id).send = some origin.direction ∧
    pair.incarnation (pair.master.tbfs.bucket id).sid = origin.incarnation

/-- Messages arrive while their bucket is that of their session or of none, and sessions are
created in slots that no bucket with packets names. -/
def Event.Keeps (pair : Pair) : Event → Prop
  | .deliver _ _ message =>
      pair.master.tbfs.size < message.tbfid ∨ message.tbfid < 1 ∨
        (pair.master.tbfs.bucket message.tbfid).sid = 0 ∨ pair.Fits message.tbfid message.origin
  | .master (.create s _) =>
      ∀ id, (pair.master.tbfs.bucket id).sid = s → (pair.master.tbfs.bucket id).queue = []
  | _ => True

section

variable {α : Type} {property : Nat → Option Direction → α → Prop} {st : State α}

theorem release_fit (fit : Tbfs.Fit property st.tbfs) (s : Nat) (d : Direction) :
    Tbfs.Fit property (st.release s d).tbfs := by
  rw [State.release]
  dsimp only
  split
  · exact fit.freeTbf _
  · exact fit

theorem throttleDirection_fit (fit : Tbfs.Fit property st.tbfs) (s : Nat) (d : Direction)
    (rate : Int) : Tbfs.Fit property (st.throttleDirection s d rate).tbfs := by
  have released := release_fit fit s d
  rw [State.throttleDirection]
  split
  · dsimp only
    split
    · exact released.newTbf _ _ _ _
    · exact released
  · exact fit

theorem throttleSession_fit (fit : Tbfs.Fit property st.tbfs) (s : Nat) (rateIn rateOut : Int) :
    Tbfs.Fit property (st.throttleSession s rateIn rateOut).tbfs := by
  rw [State.throttleSession]
  split
  · exact fit
  split
  · exact fit
  · exact throttleDirection_fit (throttleDirection_fit fit ..) ..

theorem sessionshutdown_fit (fit : Tbfs.Fit property st.tbfs) (s : Nat) :
    Tbfs.Fit property (st.sessionshutdown s).tbfs := by
  rw [State.sessionshutdown]
  split
  · exact fit
  · dsimp only
    split
    · exact @throttleSession_fit α property (st.setDie s) fit s 0 0
    · exact fit

theorem sessionkill_fit (fit : Tbfs.Fit property st.tbfs) (s : Nat) :
    Tbfs.Fit property (st.sessionkill s).tbfs := by
  rw [State.sessionkill]
  split
  · exact fit
  split
  · exact fit
  · have shut : Tbfs.Fit property
        (if (st.session s).die = 0 then st.sessionshutdown s else st).tbfs := by
      split
      · exact sessionshutdown_fit fit s
      · exact fit
    dsimp only
    generalize (if (st.session s).die = 0 then st.sessionshutdown s else st) = shut at shut ⊢
    rw [State.shutLinked]
    split
    · exact sessionshutdown_fit shut _
    · exact shut

theorem act_fit (fit : Tbfs.Fit property st.tbfs) (event : Server.Throttle.Event) :
    Tbfs.Fit property (st.act event).tbfs := by
  cases event with
  | create s opened | link s sess | setUser s user | setRate s d rate => exact fit
  | throttle s rateIn rateOut => exact throttleSession_fit fit ..
  | setup s =>
      rw [State.act, State.setupThrottle]
      split
      · exact throttleSession_fit fit ..
      · exact fit
  | shutdown s => exact sessionshutdown_fit fit s
  | kill s => exact sessionkill_fit fit s

end

/-- A packet in a bucket is for the session and the direction of the bucket. -/
def Mine (incarnation : Nat → Nat) (sid : Nat) (send : Option Direction) (data : Option Origin) :
    Prop :=
  ∀ origin, data = some origin →
    sid = origin.session ∧ send = some origin.direction ∧ incarnation sid = origin.incarnation

/-- The buckets hold packets for their own sessions, and all packets went to theirs. -/
structure Pair.Sound (pair : Pair) : Prop where
  buckets : Tbfs.Fit (Mine pair.incarnation) pair.master.tbfs
  log : pair.AllRight

namespace Pair

variable {pair : Pair}

theorem Starts.sound (starts : pair.Starts) : pair.Sound where
  buckets :=
    { queued := fun id _ packet member => by
        rw [starts.queues id] at member
        exact nomatch member
      running := fun id member => by
        rw [starts.timerChain] at member
        exact nomatch member
      once := by
        rw [starts.timerChain]
        exact List.nodup_nil }
  log delivery member := by
    rw [starts.log] at member
    exact nomatch member

theorem Sound.record (sound : pair.Sound)
    {result : Tbfs (Option Origin) × List (Sent (Option Origin))}
    (fit : Tbfs.Fit (Mine pair.incarnation) result.1 ∧ Tbfs.Fits (Mine pair.incarnation) result.2) :
    (pair.record result).Sound where
  buckets := fit.1
  log delivery member := by
    rcases List.mem_append.mp member with old | new
    · exact sound.log delivery old
    · obtain ⟨packet, sent, same⟩ := List.mem_map.mp new
      rw [← same]
      intro origin data
      obtain ⟨session, direction, incarnation⟩ := fit.2 packet sent origin data
      exact ⟨session, Option.some.inj direction, incarnation⟩

/-- A session comes to a slot that no bucket with packets names. -/
theorem Sound.incarnate (sound : pair.Sound) {event : Server.Throttle.Event}
    (keeps : Event.Keeps pair (.master event)) :
    Tbfs.Fit (Mine (pair.incarnate event)) pair.master.tbfs := by
  refine ⟨fun id used packet member origin data => ?_, sound.buckets.running, sound.buckets.once⟩
  have mine := sound.buckets.queued id used packet member origin data
  cases event with
  | create s opened =>
      have away : (pair.master.tbfs.bucket id).sid ≠ s := by
        intro same
        rw [keeps id same] at member
        exact nomatch member
      rw [Pair.incarnate, Function.update_of_ne away]
      exact mine
  | link s sess | setUser s user | setRate s d rate | throttle s rateIn rateOut | setup s
  | shutdown s | kill s => exact mine

theorem Sound.act (sound : pair.Sound) {event : Event} (keeps : event.Keeps pair) :
    (pair.act event).Sound := by
  cases event with
  | master event => exact ⟨act_fit (sound.incarnate keeps) event, sound.log⟩
  | tick time =>
      exact ⟨⟨sound.buckets.queued, sound.buckets.running, sound.buckets.once⟩, sound.log⟩
  | sendSession s | recvSession before after s copy
  | forward s d size => exact ⟨sound.buckets, sound.log⟩
  | deliver before after message =>
      have fit : Tbfs.Fit (Mine pair.incarnation)
          (pair.master.tbfs.tbfQueuePacket message.tbfid ⟨message.size, some message.origin⟩).1 ∧
          Tbfs.Fits (Mine pair.incarnation)
            (pair.master.tbfs.tbfQueuePacket message.tbfid
              ⟨message.size, some message.origin⟩).2 := by
        refine sound.buckets.tbfQueuePacket fun inside used origin data => ?_
        rw [← Option.some.inj data]
        rcases keeps with above | below | free | fits
        · exact absurd (.inl above) inside
        · exact absurd (.inr below) inside
        · exact absurd free used
        · exact fits
      exact ⟨(sound.record fit).buckets, (sound.record fit).log⟩
  | queue id size =>
      exact sound.record (sound.buckets.tbfQueuePacket fun _ _ origin data => nomatch data)
  | runTimer => exact sound.record sound.buckets.tbfRunTimer

end Pair

theorem sound_of_reachable {pair : Pair} (reached : system.ReachableUnder Event.Keeps pair) :
    pair.Sound := by
  refine reached.invariant ?_ ?_
  · intro pair starts
    exact Pair.Starts.sound starts
  · intro pair event next sound keeps leads
    rw [leads.2]
    exact sound.act keeps

/-- **Throttled packets.** In every run in which messages arrive while their bucket is that of
their session, in their direction, or of none, and sessions are created in slots that no
bucket with packets names, every packet from the slave that a bucket sends goes to the
session that it is for, and in its direction. -/
theorem packets_right {pair : Pair} (reached : system.ReachableUnder Event.Keeps pair) :
    pair.AllRight := (sound_of_reachable reached).log

/-- A master without sessions and its slave. -/
def idlePair : Pair where
  master :=
    { session := fun _ => .zero
      tbfs := ⟨6000, fun id => if id = 0 then { Tbf.empty with sid := 65535 } else .empty, [], 0,
        0⟩ }
  slave := fun _ => ⟨fun _ => 0, 0⟩
  updates := []
  messages := []
  incarnation := fun _ => 0
  log := []

theorem idlePair_initial : system.initial idlePair where
  master := initial_of_idle (by decide) fun _ positive =>
    congrArg Tbf.sid (if_neg (Nat.one_le_iff_ne_zero.mp positive))
  queues id := by
    change (if id = 0 then { Tbf.empty with sid := 65535 } else Tbf.empty).queue = []
    split <;> rfl
  timerChain := rfl
  messages := rfl
  log := rfl

/-- Session 1 of a user, which is throttled. -/
def throttledPair : Pair :=
  ((idlePair.act (.master (.create 1 5))).act (.master (.setUser 1 "u"))).act
    (.master (.throttle 1 100 (-1)))

/-- The slave has a copy of the session and forwards a packet for it. -/
def forwardingPair : Pair :=
  ((throttledPair.act (.sendSession 1)).act (.recvSession [] [] 1
    ⟨(throttledPair.master.session 1).tbf, throttledPair.incarnation 1⟩)).act
    (.forward 1 .inward 100)

def lateMessage : Message := ⟨1, 100, ⟨1, 1, .inward⟩⟩

theorem forwardingPair_messages : forwardingPair.messages = [lateMessage] := by
  decide

theorem forwardingPair_reachable : system.ReachableUnder Event.Keeps forwardingPair := by
  have created : system.ReachableUnder Event.Keeps (idlePair.act (.master (.create 1 5))) :=
    .step (.master (.create 1 5)) (.initial idlePair_initial)
      (fun id _ => idlePair_initial.queues id)
      ⟨⟨rfl, by decide, by decide, by decide⟩, rfl⟩
  have user : system.ReachableUnder Event.Keeps
      ((idlePair.act (.master (.create 1 5))).act (.master (.setUser 1 "u"))) :=
    .step (.master (.setUser 1 "u")) created trivial ⟨trivial, rfl⟩
  have throttled : system.ReachableUnder Event.Keeps throttledPair :=
    .step (.master (.throttle 1 100 (-1))) user trivial ⟨trivial, rfl⟩
  have sent : system.ReachableUnder Event.Keeps (throttledPair.act (.sendSession 1)) :=
    .step (.sendSession 1) throttled trivial ⟨trivial, rfl⟩
  have received : system.ReachableUnder Event.Keeps
      ((throttledPair.act (.sendSession 1)).act (.recvSession [] [] 1
        ⟨(throttledPair.master.session 1).tbf, throttledPair.incarnation 1⟩)) :=
    .step (.recvSession [] [] 1 _) sent trivial ⟨rfl, rfl⟩
  have forwards : (throttledPair.master.session 1).tbf .inward ≠ 0 := by
    decide
  exact .step (.forward 1 .inward 100) received trivial ⟨forwards, rfl⟩

/-- The message arrives while the bucket is that of session 1. -/
theorem packets_right_forwarded :
    (forwardingPair.act (.deliver [] [] lateMessage)).AllRight :=
  packets_right (.step (.deliver [] [] lateMessage) forwardingPair_reachable
    (.inr (.inr (.inr ⟨by decide, by decide, by decide⟩)))
    ⟨forwardingPair_messages, rfl⟩)

/-- Session 1 is unthrottled, and its bucket becomes that of session 2. -/
def takenPair : Pair :=
  (((forwardingPair.act (.master (.throttle 1 0 (-1)))).act (.master (.create 2 5))).act
    (.master (.setUser 2 "v"))).act (.master (.throttle 2 100 (-1)))

theorem takenPair_reachable : system.Reachable takenPair := by
  have forwarding : system.Reachable forwardingPair :=
    forwardingPair_reachable.weaken fun _ _ _ => trivial
  have freed : system.Reachable (forwardingPair.act (.master (.throttle 1 0 (-1)))) :=
    .step (.master (.throttle 1 0 (-1))) forwarding trivial ⟨trivial, rfl⟩
  have created : system.Reachable
      ((forwardingPair.act (.master (.throttle 1 0 (-1)))).act (.master (.create 2 5))) :=
    .step (.master (.create 2 5)) freed trivial
      ⟨⟨by decide, by decide, by decide, by decide⟩, rfl⟩
  have user : system.Reachable
      (((forwardingPair.act (.master (.throttle 1 0 (-1)))).act (.master (.create 2 5))).act
        (.master (.setUser 2 "v"))) :=
    .step (.master (.setUser 2 "v")) created trivial ⟨trivial, rfl⟩
  exact .step (.master (.throttle 2 100 (-1))) user trivial ⟨trivial, rfl⟩

/-- The packet for session 1 is sent to session 2. -/
theorem packets_stray : ¬ ∀ pair, system.Reachable pair → pair.AllRight := by
  intro right
  have messages : takenPair.messages = [lateMessage] := by
    decide
  have reached : system.Reachable (takenPair.act (.deliver [] [] lateMessage)) :=
    .step (.deliver [] [] lateMessage) takenPair_reachable trivial
      ⟨messages, rfl⟩
  obtain ⟨delivery, member, strays⟩ :
      ∃ delivery ∈ (takenPair.act (.deliver [] [] lateMessage)).log,
        delivery.sent.data = some lateMessage.origin ∧ delivery.sent.sid = 2 := by
    decide
  have session := (right _ reached delivery member lateMessage.origin strays.1).1
  rw [strays.2] at session
  exact absurd session (by decide)

end L2tpns.Cluster.Throttled
