import L2tpns.Channel.Control
import L2tpns.Foundation.Serial
import L2tpns.Foundation.TransitionSystem

/-! # Delivery of control messages

Two endpoints of one tunnel exchange datagrams over a network that loses,
repeats and reorders them. Messages are counted from the first one, so that the
16-bit `Ns` and `Nr` are counts modulo `2 ^ 16`. While fewer than `2 ^ 15`
messages are unacknowledged and no datagram outlives `2 ^ 15` messages, what one
side hands to its AVP loop is a prefix of what the other side queued, and a
message leaves the queue by an acknowledgement only once it was handed over
(`L2tpns.Channel.Link.Invariant`).
-/

namespace L2tpns.Channel

variable {Body : Type}

theorem bit15_iff {queued freed acked : Nat} (freedBelow : freed ≤ queued)
    (ahead : acked ≤ freed + 2 ^ 15) (behind : freed < acked + 2 ^ 15) :
    bit15 (((queued % 2 ^ 16 : Nat) : Int) - (queued - freed : Nat) - (acked % 2 ^ 16 : Nat)) ↔
      freed < acked := by
  unfold bit15
  rw [decide_eq_true_iff]
  omega

theorem clearAcked_eq {queued freed acked : Nat} (freedBelow : freed ≤ queued)
    (few : queued < freed + 2 ^ 15) (sent : acked ≤ queued) (behind : freed < acked + 2 ^ 15)
    (controls : List (Control Body)) :
    clearAcked (queued % 2 ^ 16) (acked % 2 ^ 16) (queued - freed) controls =
      (queued - max freed acked, controls.drop (max freed acked - freed)) := by
  induction waiting : queued - freed generalizing freed controls with
  | zero =>
      have empty : freed = queued := by omega
      subst empty
      rw [max_eq_left sent, Nat.sub_self, List.drop_zero]
      rfl
  | succ waiting ih =>
      have test := bit15_iff freedBelow (by omega : acked ≤ freed + 2 ^ 15) behind
      rw [waiting] at test
      unfold clearAcked
      by_cases done : freed < acked
      · rw [if_pos (test.mpr done),
          @ih (freed + 1) (by omega) (by omega) (by omega) controls.tail (by omega)]
        have step : max (freed + 1) acked = max freed acked := by omega
        rw [step, ← List.drop_one, List.drop_drop]
        congr 2
        omega
      · rw [if_neg (mt test.mp done)]
        have keeps : max freed acked = freed := by omega
        rw [keeps, Nat.sub_self, List.drop_zero, ← waiting]

/-- One end of the tunnel. What was queued and handed over, and how many queued
messages were freed by an acknowledgement, is history. -/
structure Endpoint (Body : Type) where
  tunnel : Tunnel Body
  alive : Bool
  queued : List Body
  handed : List Body
  freed : Nat

/-- A datagram on the network, with how many messages its sender had queued and
received when it left. -/
structure Flight (Body : Type) where
  sender : Bool
  packet : Packet Body
  sent : Nat
  received : Nat

structure Link (Body : Type) where
  endpoint : Bool → Endpoint Body
  net : List (Flight Body)

/-- Steps of either side. A datagram sent may arrive at any later time and any
number of times, or never. -/
inductive Link.Action (Body : Type) where
  | controladd (side : Bool) (clock : Clock) (body : Body)
  | receive (side : Bool) (clock : Clock) (flight : Flight Body)
  | rxWindow (side : Bool) (value : Nat)
  | cleanup (side : Bool) (clock : Clock)
  | tunnelkill (side : Bool)

/-- `tunnelkill` frees the queue and clears the tunnel. -/
def Endpoint.kill (endpoint : Endpoint Body) : Endpoint Body :=
  { endpoint with tunnel := ⟨0, 0, 0, 0, 0, 0, 0, 0, []⟩, alive := false }

namespace Link

def Action.side : Action Body → Bool
  | .controladd side _ _ | .receive side _ _ | .rxWindow side _ | .cleanup side _
  | .tunnelkill side => side

def put (link : Link Body) (side : Bool) (endpoint : Endpoint Body)
    (packets : List (Packet Body)) : Link Body where
  endpoint := Function.update link.endpoint side endpoint
  net := link.net ++ packets.map fun packet =>
    ⟨side, packet, endpoint.queued.length, endpoint.handed.length⟩

/-- A killed tunnel does nothing, and each side receives what the other one sent. -/
def enabled (link : Link Body) (action : Action Body) : Prop :=
  (link.endpoint action.side).alive = true ∧
    match action with
    | .receive side _ flight => flight ∈ link.net ∧ flight.sender = !side
    | _ => True

def act (link : Link Body) : Action Body → Link Body
  | .controladd side clock body =>
      let endpoint := link.endpoint side
      let (tunnel, packets) := controladd clock endpoint.tunnel body
      link.put side { endpoint with tunnel := tunnel, queued := endpoint.queued ++ [body] } packets
  | .receive side clock flight =>
      let endpoint := link.endpoint side
      let (tunnel, packets, handed) := processudp clock endpoint.tunnel flight.packet
      link.put side
        { endpoint with
          tunnel := tunnel
          handed := endpoint.handed ++ handed.toList
          freed := endpoint.freed + (endpoint.tunnel.controlc - tunnel.controlc) } packets
  | .rxWindow side value =>
      let endpoint := link.endpoint side
      link.put side { endpoint with tunnel := rxWindow endpoint.tunnel value } []
  | .cleanup side clock =>
      let endpoint := link.endpoint side
      match resend clock endpoint.tunnel with
      | none => link.put side endpoint.kill []
      | some result => link.put side { endpoint with tunnel := result.1 } result.2
  | .tunnelkill side => link.put side (link.endpoint side).kill []

/-- Both sides have just set up the tunnel. -/
structure Starts (link : Link Body) : Prop where
  alive : ∀ side, (link.endpoint side).alive = true
  ns : ∀ side, (link.endpoint side).tunnel.ns = 0
  nr : ∀ side, (link.endpoint side).tunnel.nr = 0
  controlc : ∀ side, (link.endpoint side).tunnel.controlc = 0
  controls : ∀ side, (link.endpoint side).tunnel.controls = []
  queued : ∀ side, (link.endpoint side).queued = []
  handed : ∀ side, (link.endpoint side).handed = []
  freed : ∀ side, (link.endpoint side).freed = 0
  net : link.net = []

variable (Body) in
def system : Foundation.TransitionSystem (Link Body) (Action Body) where
  initial := Starts
  step link action next := link.enabled action ∧ next = link.act action

/-- Fewer than `2 ^ 15` messages stay unacknowledged, and a datagram arrives
before its sender has queued or received `2 ^ 15` further messages. -/
def Fair (link : Link Body) : Action Body → Prop
  | .controladd side _ _ => (link.endpoint side).tunnel.controlc + 1 < 2 ^ 15
  | .receive _ _ flight =>
      (link.endpoint flight.sender).queued.length < flight.sent + 2 ^ 15 ∧
        (link.endpoint flight.sender).handed.length < flight.received + 2 ^ 15
  | _ => True

end Link

/-- The tunnel of an endpoint counts what it queued and received, and its queue
is what it queued and has not freed. -/
structure Endpoint.Counts (endpoint : Endpoint Body) : Prop where
  ns : endpoint.tunnel.ns = endpoint.queued.length % 2 ^ 16
  nr : endpoint.tunnel.nr = endpoint.handed.length % 2 ^ 16
  controlc : endpoint.freed + endpoint.tunnel.controlc = endpoint.queued.length
  controls : ∀ place, endpoint.tunnel.controls[place]? =
    endpoint.queued[endpoint.freed + place]?.map fun body =>
      ⟨(endpoint.freed + place) % 2 ^ 16, body⟩

/-- A datagram that left after `sent` messages of `queued`: a ZLB has the next
number, a message the number of its position. -/
def Packet.Genuine (packet : Packet Body) (queued : List Body) (sent : Nat) : Prop :=
  ∃ position, packet.ns = position % 2 ^ 16 ∧ position ≤ sent ∧ sent < position + 2 ^ 15 ∧
    (packet.body = none ∧ position = sent ∨
      ∃ body, packet.body = some body ∧ queued[position]? = some body)

variable {endpoint : Endpoint Body}

theorem Endpoint.Counts.length_controls (counts : endpoint.Counts) :
    endpoint.tunnel.controls.length = endpoint.tunnel.controlc := by
  have total := counts.controlc
  have none_iff : ∀ place, endpoint.tunnel.controls.length ≤ place ↔
      endpoint.tunnel.controlc ≤ place := by
    intro place
    rw [← List.getElem?_eq_none_iff, counts.controls, Option.map_eq_none_iff,
      List.getElem?_eq_none_iff]
    omega
  exact le_antisymm ((none_iff _).mpr le_rfl) ((none_iff _).mp le_rfl)

/-- Queueing a message counts it. -/
theorem Endpoint.Counts.enqueue (counts : endpoint.Counts)
    (few : endpoint.tunnel.controlc + 1 < 2 ^ 15) (body : Body) :
    Endpoint.Counts
      { endpoint with
        tunnel := endpoint.tunnel.enqueue body
        queued := endpoint.queued ++ [body] } := by
  have total := counts.controlc
  have length := counts.length_controls
  have appended : (endpoint.tunnel.enqueue body).controls =
      endpoint.tunnel.controls ++ [⟨endpoint.tunnel.ns, body⟩] := by
    unfold Tunnel.enqueue
    dsimp only
    split
    · rename_i empty
      rw [List.length_eq_zero_iff.mp (length.trans empty), List.nil_append]
    · rfl
  refine ⟨?_, counts.nr, ?_, ?_⟩
  · simp only [Tunnel.enqueue, counts.ns, List.length_append, List.length_singleton]
    omega
  · simp only [Tunnel.enqueue, List.length_append, List.length_singleton]
    omega
  · intro place
    dsimp only
    rw [appended]
    rcases Nat.lt_trichotomy place endpoint.tunnel.controlc with before | rfl | after
    · rw [List.getElem?_append_left (by omega), List.getElem?_append_left (by omega)]
      exact counts.controls place
    · rw [← length, List.getElem?_concat_length, length, total, List.getElem?_concat_length]
      simp only [Option.map_some, counts.ns]
    · rw [List.getElem?_eq_none (by simp only [List.length_append, List.length_singleton]; omega),
        List.getElem?_eq_none (by simp only [List.length_append, List.length_singleton]; omega)]
      rfl

theorem Endpoint.Counts.acknowledge (counts : endpoint.Counts)
    (few : endpoint.queued.length < endpoint.freed + 2 ^ 15) (acked : Nat)
    (sent : acked ≤ endpoint.queued.length) (behind : endpoint.freed < acked + 2 ^ 15) :
    (endpoint.tunnel.acknowledge (acked % 2 ^ 16)).controlc =
        endpoint.queued.length - max endpoint.freed acked ∧
      Endpoint.Counts
        { endpoint with
          tunnel := endpoint.tunnel.acknowledge (acked % 2 ^ 16)
          freed := max endpoint.freed acked } := by
  have total := counts.controlc
  have waiting : endpoint.tunnel.controlc = endpoint.queued.length - endpoint.freed := by omega
  have cleared := clearAcked_eq (by omega) few sent behind endpoint.tunnel.controls
  rw [← waiting, ← counts.ns] at cleared
  refine ⟨?_, counts.ns, counts.nr, ?_, ?_⟩
  · simp only [Tunnel.acknowledge, cleared]
  · simp only [Tunnel.acknowledge, cleared]
    omega
  · intro place
    simp only [Tunnel.acknowledge, cleared]
    rw [List.getElem?_drop, counts.controls]
    have same : endpoint.freed + (max endpoint.freed acked - endpoint.freed + place) =
        max endpoint.freed acked + place := by omega
    rw [same]

theorem Endpoint.Counts.sent (counts : endpoint.Counts)
    {tunnel : Tunnel Body} (sent : endpoint.tunnel.Sent tunnel) :
    Endpoint.Counts { endpoint with tunnel := tunnel } where
  ns := sent.ns.trans counts.ns
  nr := sent.nr.trans counts.nr
  controlc := by
    dsimp only
    rw [sent.controlc]
    exact counts.controlc
  controls := by
    dsimp only
    rw [sent.controls]
    exact counts.controls

theorem Endpoint.Counts.genuine (counts : endpoint.Counts)
    (few : endpoint.queued.length < endpoint.freed + 2 ^ 15) {control : Control Body}
    (member : control ∈ endpoint.tunnel.controls) :
    Packet.Genuine ⟨control.ns, endpoint.tunnel.nr, some control.body⟩ endpoint.queued
      endpoint.queued.length := by
  obtain ⟨place, present⟩ := List.mem_iff_getElem?.mp member
  rw [counts.controls] at present
  obtain ⟨body, queued, same⟩ := Option.map_eq_some_iff.mp present
  have inside := (List.getElem?_eq_some_iff.mp queued).1
  subst same
  exact ⟨endpoint.freed + place, rfl, inside.le, by omega, .inr ⟨body, rfl, queued⟩⟩

theorem Packet.Genuine.extend {packet : Packet Body} {queued more : List Body} {sent : Nat}
    (genuine : packet.Genuine queued sent) (grows : queued <+: more) :
    packet.Genuine more sent := by
  obtain ⟨position, ns, within, near, zlb | ⟨body, carries, present⟩⟩ := genuine
  · exact ⟨position, ns, within, near, .inl zlb⟩
  · refine ⟨position, ns, within, near, .inr ⟨body, carries, ?_⟩⟩
    obtain ⟨tail, rfl⟩ := grows
    rw [List.getElem?_append_left (List.getElem?_eq_some_iff.mp present).1]
    exact present

namespace Link

structure Invariant (link : Link Body) : Prop where
  counts : ∀ side, (link.endpoint side).alive = true → (link.endpoint side).Counts
  few : ∀ side, (link.endpoint side).queued.length < (link.endpoint side).freed + 2 ^ 15
  freed : ∀ side, (link.endpoint side).freed ≤ (link.endpoint !side).handed.length
  received : ∀ side, (link.endpoint !side).handed <+: (link.endpoint side).queued
  flights : ∀ flight ∈ link.net,
    flight.sent ≤ (link.endpoint flight.sender).queued.length ∧
      flight.received ≤ (link.endpoint flight.sender).handed.length ∧
        flight.packet.nr = flight.received % 2 ^ 16 ∧
          flight.packet.Genuine (link.endpoint flight.sender).queued flight.sent

variable {link : Link Body}

/-- One side moves: its history grows, it stays within what the other side
queued and received, and what it sends is genuine. -/
theorem Invariant.put (invariant : link.Invariant) {side : Bool} {endpoint : Endpoint Body}
    {packets : List (Packet Body)} (counts : endpoint.alive = true → endpoint.Counts)
    (queued : (link.endpoint side).queued <+: endpoint.queued)
    (handed : (link.endpoint side).handed <+: endpoint.handed)
    (few : endpoint.queued.length < endpoint.freed + 2 ^ 15)
    (freed : endpoint.freed ≤ (link.endpoint !side).handed.length)
    (received : endpoint.handed <+: (link.endpoint !side).queued)
    (sends : ∀ packet ∈ packets, packet.nr = endpoint.handed.length % 2 ^ 16 ∧
      packet.Genuine endpoint.queued endpoint.queued.length) :
    (link.put side endpoint packets).Invariant := by
  have here : (link.put side endpoint packets).endpoint side = endpoint := Function.update_self ..
  have there : (link.put side endpoint packets).endpoint (!side) = link.endpoint !side :=
    Function.update_of_ne (Bool.not_ne_self side) ..
  have back : (!!side) = side := Bool.not_not side
  have either : ∀ which, which = side ∨ which = !side := by
    intro which
    cases which <;> cases side <;> decide
  refine ⟨?_, ?_, ?_, ?_, ?_⟩
  · intro which
    rcases either which with rfl | rfl
    · rw [here]
      exact counts
    · rw [there]
      exact invariant.counts _
  · intro which
    rcases either which with rfl | rfl
    · rw [here]
      exact few
    · rw [there]
      exact invariant.few _
  · intro which
    rcases either which with rfl | rfl
    · rw [here, there]
      exact freed
    · have old := invariant.freed !side
      rw [there, back, here]
      rw [back] at old
      exact old.trans handed.length_le
  · intro which
    rcases either which with rfl | rfl
    · have old := invariant.received which
      rw [here, there]
      exact old.trans queued
    · rw [there, back, here]
      exact received
  · intro flight member
    rcases List.mem_append.mp member with old | new
    · obtain ⟨sent, got, nr, genuine⟩ := invariant.flights flight old
      rcases either flight.sender with same | other
      · rw [same] at sent got genuine ⊢
        rw [here]
        exact ⟨sent.trans queued.length_le, got.trans handed.length_le, nr, genuine.extend queued⟩
      · rw [other] at sent got genuine ⊢
        rw [there]
        exact ⟨sent, got, nr, genuine⟩
    · obtain ⟨packet, sent, rfl⟩ := List.mem_map.mp new
      dsimp only
      rw [here]
      exact ⟨le_rfl, le_rfl, (sends packet sent).1, (sends packet sent).2⟩

theorem Invariant.controladd (invariant : link.Invariant) {side : Bool}
    (alive : (link.endpoint side).alive = true) (clock : Clock) (body : Body)
    (few : (link.endpoint side).tunnel.controlc + 1 < 2 ^ 15) :
    (link.act (.controladd side clock body)).Invariant := by
  have counts := invariant.counts side alive
  have queueLength := counts.controlc
  have growth : (link.endpoint side).queued <+: (link.endpoint side).queued ++ [body] :=
    List.prefix_append ..
  refine invariant.put ?_ growth (List.prefix_refl _) ?_ (invariant.freed side) ?_ ?_
  · exact fun _ => (counts.enqueue few body).sent (controladd_sent clock _ body)
  · dsimp only
    rw [List.length_append, List.length_singleton]
    omega
  · have received := invariant.received !side
    rwa [Bool.not_not] at received
  · intro packet sent
    rw [mem_controladd sent]
    refine ⟨counts.nr, (link.endpoint side).queued.length, counts.ns, ?_, ?_,
      .inr ⟨body, rfl, List.getElem?_concat_length ..⟩⟩
    · dsimp only
      rw [List.length_append]
      omega
    · dsimp only
      rw [List.length_append, List.length_singleton]
      omega

/-- A datagram out of sequence is at most answered by a ZLB. -/
theorem Invariant.receiveOutOfSequence (invariant : link.Invariant) {side : Bool}
    (alive : (link.endpoint side).alive = true) (clock : Clock) {flight : Flight Body}
    (other : flight.packet.ns ≠ (link.endpoint side).tunnel.nr) :
    (link.act (.receive side clock flight)).Invariant := by
  have counts := invariant.counts side alive
  have received := invariant.received !side
  rw [Bool.not_not] at received
  obtain ⟨after, packets, result, sent, zlb⟩ := processudp_of_ne clock other
  unfold act
  simp only [result, Option.toList_none, List.append_nil, sent.controlc, Nat.sub_self,
    Nat.add_zero]
  refine invariant.put (fun _ => counts.sent sent) (List.prefix_refl _) (List.prefix_refl _)
    (invariant.few side) (invariant.freed side) received ?_
  intro packet member
  rw [zlb packet member]
  refine ⟨counts.nr, _, counts.ns, le_rfl, ?_, .inl ⟨rfl, rfl⟩⟩
  dsimp only
  omega

/-- A datagram in sequence: what it acknowledges leaves the queue, its message is
the next one the other side queued, and what comes into the window is sent. -/
theorem Invariant.receiveInSequence (invariant : link.Invariant) {side : Bool}
    (alive : (link.endpoint side).alive = true) (clock : Clock) {flight : Flight Body}
    (member : flight ∈ link.net) (sender : flight.sender = !side)
    (fair : link.Fair (.receive side clock flight))
    (expected : flight.packet.ns = (link.endpoint side).tunnel.nr) :
    (link.act (.receive side clock flight)).Invariant := by
  have counts := invariant.counts side alive
  have few := invariant.few side
  have freed := invariant.freed side
  have received := invariant.received !side
  have farFew := invariant.few !side
  have farFreed := invariant.freed !side
  have farReceived := (invariant.received side).length_le
  obtain ⟨youngSent, youngReceived⟩ := fair
  obtain ⟨sent, got, nr, position, ns, within, near, carries⟩ := invariant.flights flight member
  rw [Bool.not_not] at received farFreed
  rw [sender] at youngSent youngReceived sent got carries
  have handedLength := received.length_le
  -- the number it carries is the number of messages handed over here
  have here : position = (link.endpoint side).handed.length := by
    rw [ns, counts.nr] at expected
    exact Foundation.eq_of_serial_eq expected (by omega) (by omega)
  obtain ⟨left, acknowledged⟩ := counts.acknowledge few flight.received (by omega) (by omega)
  rw [← nr] at left acknowledged
  have total := counts.controlc
  have advances : ∃ handed, (link.endpoint side).handed <+: handed ∧
      handed = (link.endpoint side).handed ++ flight.packet.body.toList ∧
        handed <+: (link.endpoint !side).queued ∧
          Endpoint.Counts
            { link.endpoint side with
              tunnel := (link.endpoint side).tunnel.advance flight.packet
              handed := handed
              freed := max (link.endpoint side).freed flight.received } := by
    have moved : ∀ handed : List Body,
        ((link.endpoint side).tunnel.advance flight.packet).nr = handed.length % 2 ^ 16 →
          Endpoint.Counts
            { link.endpoint side with
              tunnel := (link.endpoint side).tunnel.advance flight.packet
              handed := handed
              freed := max (link.endpoint side).freed flight.received } := by
      intro handed count
      refine ⟨?_, count, ?_, ?_⟩
      · exact (Tunnel.advance_ns ..).trans counts.ns
      · simpa only [Tunnel.advance_controlc] using acknowledged.controlc
      · simpa only [Tunnel.advance_controls] using acknowledged.controls
    rcases carries with ⟨zlb, _⟩ | ⟨body, message, queued⟩
    · refine ⟨_, List.prefix_refl _, ?_, received, moved _ ?_⟩
      · rw [zlb, Option.toList_none, List.append_nil]
      · rw [Tunnel.advance_nr, zlb]
        exact counts.nr
    · refine ⟨_, List.prefix_append .., ?_, ?_, moved ((link.endpoint side).handed ++ [body]) ?_⟩
      · rw [message]
        rfl
      · rw [here] at queued
        obtain ⟨rest, same⟩ := received
        rw [← same] at queued ⊢
        rw [List.getElem?_append_right le_rfl, Nat.sub_self] at queued
        cases rest with
        | nil => cases queued
        | cons next rest =>
            cases queued
            exact ⟨rest, by simp only [List.append_assoc, List.singleton_append]⟩
      · simp only [Tunnel.advance_nr, message, Option.isSome_some, ↓reduceIte, ns, here,
          List.length_append, List.length_singleton]
        omega
  obtain ⟨handed, grows, appended, prefixed, advanced⟩ := advances
  obtain ⟨after, result, finished⟩ := processudp_of_eq clock expected
  have freedNow : (link.endpoint side).freed + ((link.endpoint side).tunnel.controlc -
      ((link.endpoint side).queued.length - max (link.endpoint side).freed flight.received)) =
        max (link.endpoint side).freed flight.received := by omega
  have fewNow : (link.endpoint side).queued.length <
      max (link.endpoint side).freed flight.received + 2 ^ 15 := by omega
  unfold act
  simp only [result, ← appended, finished.controlc, Tunnel.advance_controlc, left, freedNow]
  refine invariant.put (fun _ => advanced.sent finished) (List.prefix_refl _) grows fewNow ?_
    prefixed ?_
  · dsimp only
    omega
  · intro packet leaves
    obtain ⟨control, queued, rfl⟩ := mem_pump leaves
    exact ⟨advanced.nr, advanced.genuine fewNow queued⟩

/-- A step that moves no history: the tunnel counts as before, or was killed, and
what is sent comes from the queue. -/
theorem Invariant.keep (invariant : link.Invariant) {side : Bool} {tunnel : Tunnel Body}
    {alive : Bool} {packets : List (Packet Body)}
    (counts : alive = true →
      Endpoint.Counts { link.endpoint side with tunnel := tunnel, alive := alive })
    (sends : ∀ packet ∈ packets, packet.nr = (link.endpoint side).handed.length % 2 ^ 16 ∧
      packet.Genuine (link.endpoint side).queued (link.endpoint side).queued.length) :
    (link.put side { link.endpoint side with tunnel := tunnel, alive := alive }
      packets).Invariant := by
  have received := invariant.received !side
  rw [Bool.not_not] at received
  exact invariant.put counts (List.prefix_refl _) (List.prefix_refl _) (invariant.few side)
    (invariant.freed side) received sends

theorem Invariant.cleanup (invariant : link.Invariant) {side : Bool}
    (alive : (link.endpoint side).alive = true) (clock : Clock) :
    (link.act (.cleanup side clock)).Invariant := by
  have counts := invariant.counts side alive
  unfold act
  dsimp only
  cases resending : resend clock (link.endpoint side).tunnel with
  | none => exact invariant.keep (fun dead => absurd dead Bool.false_ne_true) nofun
  | some result =>
      unfold resend at resending
      dsimp only at resending ⊢
      split_ifs at resending
      · obtain rfl := Option.some.inj resending
        refine invariant.keep (fun _ => counts.sent ?_) ?_
        · refine Tunnel.Sent.trans ?_ (tunnelsendAll_sent ..)
          exact ⟨rfl, rfl, rfl, rfl, rfl, rfl⟩
        · intro packet sent
          obtain ⟨control, member, rfl⟩ := mem_tunnelsendAll sent
          exact ⟨counts.nr,
            counts.genuine (invariant.few side) (List.mem_of_mem_take member)⟩
      · obtain rfl := Option.some.inj resending
        exact invariant.keep (fun _ => counts) nofun

theorem Invariant.act (invariant : link.Invariant) (action : Action Body)
    (fair : link.Fair action) (possible : link.enabled action) :
    (link.act action).Invariant := by
  obtain ⟨alive, possible⟩ := possible
  cases action with
  | controladd side clock body => exact invariant.controladd alive clock body fair
  | receive side clock flight =>
      obtain ⟨member, sender⟩ := possible
      by_cases expected : flight.packet.ns = (link.endpoint side).tunnel.nr
      · exact invariant.receiveInSequence alive clock member sender fair expected
      · exact invariant.receiveOutOfSequence alive clock expected
  | rxWindow side value =>
      have counts := invariant.counts side alive
      exact invariant.keep (fun _ => ⟨counts.ns, counts.nr, counts.controlc, counts.controls⟩) nofun
  | cleanup side clock => exact invariant.cleanup alive clock
  | tunnelkill side =>
      exact invariant.keep (fun dead => absurd dead Bool.false_ne_true) nofun

theorem Starts.invariant (starts : link.Starts) : link.Invariant where
  counts side _ := by
    refine ⟨?_, ?_, ?_, ?_⟩
    · rw [starts.ns, starts.queued]
      rfl
    · rw [starts.nr, starts.handed]
      rfl
    · rw [starts.freed, starts.controlc, starts.queued]
      rfl
    · intro place
      rw [starts.controls, starts.queued, List.getElem?_nil, List.getElem?_nil]
      rfl
  few side := by
    rw [starts.queued, starts.freed, List.length_nil]
    decide
  freed side := by
    rw [starts.freed]
    exact Nat.zero_le _
  received side := by
    rw [starts.handed]
    exact List.nil_prefix
  flights flight member := by
    rw [starts.net] at member
    exact absurd member List.not_mem_nil

theorem invariant_of_reachable (reached : (system Body).ReachableUnder Fair link) :
    link.Invariant := by
  refine reached.invariant (fun _ => Starts.invariant) ?_
  rintro link action _ invariant fair ⟨possible, rfl⟩
  exact invariant.act action fair possible

/-- One side queues a message, the other one receives it. -/
def delivered : Link String :=
  let start : Link String := ⟨fun _ => ⟨⟨1, 4, 0, 0, 0, 0, 0, 0, []⟩, true, [], [], 0⟩, []⟩
  (start.act (.controladd true ⟨10, 1⟩ "SCCRQ")).act
    (.receive false ⟨12, 1⟩ ⟨true, ⟨0, 0, some "SCCRQ"⟩, 1, 0⟩)

theorem delivered_reachable : (system String).ReachableUnder Fair delivered := by
  have starts :
      Starts (⟨fun _ => ⟨⟨1, 4, 0, 0, 0, 0, 0, 0, []⟩, true, [], [], 0⟩, []⟩ : Link String) :=
    ⟨fun _ => rfl, fun _ => rfl, fun _ => rfl, fun _ => rfl, fun _ => rfl, fun _ => rfl,
      fun _ => rfl, fun _ => rfl, rfl⟩
  refine .step (.receive false ⟨12, 1⟩ ⟨true, ⟨0, 0, some "SCCRQ"⟩, 1, 0⟩)
    (.step (.controladd true ⟨10, 1⟩ "SCCRQ") (.initial starts) ?_ ⟨⟨rfl, trivial⟩, rfl⟩)
    ?_ ⟨⟨rfl, List.mem_cons_self, rfl⟩, rfl⟩
  · change 0 + 1 < 2 ^ 15
    decide
  · change 1 < 1 + 2 ^ 15 ∧ 0 < 0 + 2 ^ 15
    decide

end Link

end L2tpns.Channel
