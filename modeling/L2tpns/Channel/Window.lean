import L2tpns.Channel.Control
import L2tpns.Foundation.TransitionSystem
import Mathlib.Order.MinMax

/-! # The control window

Every message of the queue that lies inside the window has been on the wire, and
messages first go on the wire in the order they were queued, as long as the
window never opens over a queued message that no earlier window covered. The
pump computes what an acknowledgement lets in from the window that is in force,
so that a Receive Window Size AVP that opens the window further leaves messages
waiting for a retransmission (`L2tpns.Channel.Sender.window_opened_untransmitted`).
A message is queued together with its serial number, counted from the first one.
-/

namespace L2tpns.Channel

variable {Body : Type}

/-- A tunnel with its history: how many messages were queued, the serial numbers
in the order of their first transmission, and how far into the queue the window
has reached. -/
structure Sender (Body : Type) where
  tunnel : Tunnel (Nat × Body)
  added : Nat
  transmitted : List Nat
  reach : Nat

/-- Steps of the tunnel. The AVPs of a received message act after it is received. -/
inductive Sender.Action (Body : Type) where
  | controladd (clock : Clock) (body : Body)
  | receive (clock : Clock) (packet : Packet (Nat × Body))
  | rxWindow (value : Nat)
  | cleanup (clock : Clock)

/-- Add serial numbers that are new. -/
def noteAll (transmitted : List Nat) : List Nat → List Nat
  | [] => transmitted
  | serial :: serials =>
      noteAll (if serial ∈ transmitted then transmitted else transmitted ++ [serial]) serials

/-- The serial numbers of the queued messages among some datagrams. -/
def serialsOf (packets : List (Packet (Nat × Body))) : List Nat :=
  packets.filterMap fun packet => packet.body.map Prod.fst

namespace Sender

/-- The serial number after the last one inside the window. -/
def covered (added : Nat) (tunnel : Tunnel (Nat × Body)) : Nat :=
  added - tunnel.controlc + min tunnel.controlc tunnel.window

def moves (sender : Sender Body) (added : Nat) (tunnel : Tunnel (Nat × Body))
    (packets : List (Packet (Nat × Body))) : Sender Body where
  tunnel := tunnel
  added := added
  transmitted := noteAll sender.transmitted (serialsOf packets)
  reach := max sender.reach (covered added tunnel)

def act (sender : Sender Body) : Action Body → Sender Body
  | .controladd clock body =>
      let result := Channel.controladd clock sender.tunnel (sender.added, body)
      sender.moves (sender.added + 1) result.1 result.2
  | .receive clock packet =>
      let result := processudp clock sender.tunnel packet
      sender.moves sender.added result.1 result.2.1
  | .rxWindow value => sender.moves sender.added (Channel.rxWindow sender.tunnel value) []
  | .cleanup clock =>
      match resend clock sender.tunnel with
      | none => sender
      | some result => sender.moves sender.added result.1 result.2

/-- A tunnel to an endpoint, with nothing queued yet. -/
structure Starts (sender : Sender Body) : Prop where
  ip : sender.tunnel.ip ≠ 0
  controlc : sender.tunnel.controlc = 0
  controls : sender.tunnel.controls = []
  added : sender.added = 0
  transmitted : sender.transmitted = []
  reach : sender.reach = 0

variable (Body) in
def system : Foundation.TransitionSystem (Sender Body) (Action Body) where
  initial := Starts
  step sender action next := next = sender.act action

/-- The queue stays within its 16-bit count, and no Receive Window Size AVP opens
the window over a queued message that no earlier window covered. -/
def Covered (sender : Sender Body) : Action Body → Prop
  | .controladd _ _ => sender.tunnel.controlc + 1 < 2 ^ 16
  | .rxWindow value =>
      covered sender.added (Channel.rxWindow sender.tunnel value) ≤ sender.reach
  | _ => True

/-- Every queued message inside the window has been transmitted, and first
transmissions are in queue order. -/
structure Windowed (sender : Sender Body) : Prop where
  inWindow : ∀ control ∈ sender.tunnel.controls.take
    (min sender.tunnel.window sender.tunnel.controlc), control.body.1 ∈ sender.transmitted
  inOrder : sender.transmitted.Pairwise (· < ·)

end Sender

/-- Noting increasing serial numbers that are known or beyond all known ones. -/
theorem noteAll_spec {transmitted serials : List Nat} (ordered : transmitted.Pairwise (· < ·))
    (increasing : serials.Pairwise (· < ·))
    (fresh : ∀ serial ∈ serials, serial ∈ transmitted ∨ ∀ old ∈ transmitted, old < serial) :
    (noteAll transmitted serials).Pairwise (· < ·) ∧
      ∀ serial, serial ∈ noteAll transmitted serials ↔ serial ∈ transmitted ∨ serial ∈ serials := by
  induction serials generalizing transmitted with
  | nil => exact ⟨ordered, fun serial => by simp only [noteAll, List.not_mem_nil, or_false]⟩
  | cons first rest ih =>
      obtain ⟨later, increasing⟩ := List.pairwise_cons.mp increasing
      have freshRest : ∀ serial ∈ rest, serial ∈ transmitted ∨ ∀ old ∈ transmitted, old < serial :=
        fun serial member => fresh serial (List.mem_cons_of_mem _ member)
      by_cases known : first ∈ transmitted
      · simp only [noteAll, known, ↓reduceIte]
        obtain ⟨sorted, members⟩ := ih ordered increasing freshRest
        refine ⟨sorted, fun serial => ?_⟩
        rw [members, List.mem_cons]
        constructor
        · rintro (old | new)
          · exact .inl old
          · exact .inr (.inr new)
        · rintro (old | rfl | new)
          · exact .inl old
          · exact .inl known
          · exact .inr new
      · simp only [noteAll, known, ↓reduceIte]
        have beyond := (fresh first List.mem_cons_self).resolve_left known
        have extended : (transmitted ++ [first]).Pairwise (· < ·) := by
          refine List.pairwise_append.mpr ⟨ordered, List.pairwise_singleton _ _, ?_⟩
          intro old member last same
          rw [List.mem_singleton.mp same]
          exact beyond old member
        have still : ∀ serial ∈ rest,
            serial ∈ transmitted ++ [first] ∨ ∀ old ∈ transmitted ++ [first], old < serial := by
          intro serial member
          rcases freshRest serial member with old | above
          · exact .inl (List.mem_append_left _ old)
          · refine .inr fun old known => ?_
            rcases List.mem_append.mp known with earlier | same
            · exact above old earlier
            · rw [List.mem_singleton.mp same]
              exact later serial member
        obtain ⟨sorted, members⟩ := ih extended increasing still
        refine ⟨sorted, fun serial => ?_⟩
        rw [members, List.mem_append, List.mem_singleton, List.mem_cons, or_assoc]

namespace Sender

structure Invariant (sender : Sender Body) : Prop where
  ip : sender.tunnel.ip ≠ 0
  count : sender.tunnel.controlc ≤ sender.added
  narrow : sender.tunnel.controlc < 2 ^ 16
  queue : sender.tunnel.controls.map (fun control => control.body.1) =
    List.range' (sender.added - sender.tunnel.controlc) sender.tunnel.controlc
  ordered : sender.transmitted.Pairwise (· < ·)
  below : ∀ serial ∈ sender.transmitted, serial < sender.reach
  known : ∀ serial, sender.added - sender.tunnel.controlc ≤ serial → serial < sender.reach →
    serial ∈ sender.transmitted
  within : sender.reach ≤ sender.added
  covers : covered sender.added sender.tunnel ≤ sender.reach

variable {sender : Sender Body}

theorem Starts.invariant (starts : Starts sender) : sender.Invariant := by
  refine ⟨starts.ip, ?_, ?_, ?_, ?_, ?_, ?_, ?_, ?_⟩
  · rw [starts.controlc]
    exact Nat.zero_le _
  · rw [starts.controlc]
    decide
  · rw [starts.controls, starts.controlc]
    rfl
  · rw [starts.transmitted]
    exact List.Pairwise.nil
  · rw [starts.transmitted]
    exact nofun
  · rw [starts.reach]
    exact fun serial _ => (absurd · (Nat.not_lt_zero serial))
  · rw [starts.reach]
    exact Nat.zero_le _
  · rw [covered, starts.added, starts.controlc]
    omega

theorem Invariant.windowed (invariant : sender.Invariant) : sender.Windowed := by
  refine ⟨fun control member => ?_, invariant.ordered⟩
  have serial : control.body.1 ∈ (sender.tunnel.controls.map fun control => control.body.1).take
      (min sender.tunnel.window sender.tunnel.controlc) := by
    rw [← List.map_take]
    exact List.mem_map_of_mem member
  rw [invariant.queue, List.take_range'_of_length_ge (min_le_right _ _), List.mem_range'_1]
    at serial
  have covers := invariant.covers
  unfold covered at covers
  exact invariant.known _ serial.1 (by omega)

variable {tunnel : Tunnel (Nat × Body)}

/-- A step transmits a stretch of the queue that starts inside it, ends with the
window, and contains whatever the window has newly reached. -/
theorem Invariant.moves (invariant : sender.Invariant) {added : Nat}
    {packets : List (Packet (Nat × Body))} (start length : Nat)
    (ip : tunnel.ip ≠ 0) (count : tunnel.controlc ≤ added) (narrow : tunnel.controlc < 2 ^ 16)
    (queue : tunnel.controls.map (fun control => control.body.1) =
      List.range' (added - tunnel.controlc) tunnel.controlc)
    (forward : sender.added - sender.tunnel.controlc ≤ added - tunnel.controlc)
    (grows : sender.added ≤ added) (serials : serialsOf packets = List.range' start length)
    (queued : length = 0 ∨ sender.added - sender.tunnel.controlc ≤ start)
    (ends : length = 0 ∨ start + length ≤ covered added tunnel)
    (complete : ∀ serial, added - tunnel.controlc ≤ serial → sender.reach ≤ serial →
      serial < covered added tunnel → start ≤ serial ∧ serial < start + length) :
    (sender.moves added tunnel packets).Invariant := by
  have mem_serials : ∀ serial, serial ∈ serialsOf packets ↔
      start ≤ serial ∧ serial < start + length := by
    intro serial
    rw [serials, List.mem_range'_1]
  have increasing : (serialsOf packets).Pairwise (· < ·) := by
    rw [serials]
    exact List.pairwise_lt_range' 1
  have fresh : ∀ serial ∈ serialsOf packets,
      serial ∈ sender.transmitted ∨ ∀ old ∈ sender.transmitted, old < serial := by
    intro serial member
    obtain ⟨after, before⟩ := (mem_serials serial).mp member
    rcases Nat.lt_or_ge serial sender.reach with reached | beyond
    · exact .inl (invariant.known serial (by omega) reached)
    · exact .inr fun old known => (invariant.below old known).trans_le beyond
  obtain ⟨sorted, members⟩ := noteAll_spec invariant.ordered increasing fresh
  have atMost : covered added tunnel ≤ added := by
    unfold covered
    omega
  refine ⟨ip, count, narrow, queue, sorted, ?_, ?_, ?_, le_max_right _ _⟩
  · intro serial member
    change serial < max sender.reach (covered added tunnel)
    rcases (members serial).mp member with old | new
    · exact lt_max_of_lt_left (invariant.below serial old)
    · obtain ⟨after, before⟩ := (mem_serials serial).mp new
      exact lt_max_of_lt_right (by omega)
  · intro serial inQueue reached
    change serial < max sender.reach (covered added tunnel) at reached
    change added - tunnel.controlc ≤ serial at inQueue
    refine (members serial).mpr ?_
    rcases Nat.lt_or_ge serial sender.reach with before | beyond
    · exact .inl (invariant.known serial (forward.trans inQueue) before)
    · have newly := (lt_max_iff.mp reached).resolve_left (not_lt.mpr beyond)
      exact .inr ((mem_serials serial).mpr (complete serial inQueue beyond newly))
  · exact max_le (invariant.within.trans grows) atMost

/-- A step that keeps the queue and the window and transmits nothing new. -/
theorem Invariant.quiet (invariant : sender.Invariant)
    {packets : List (Packet (Nat × Body))} (sent : sender.tunnel.Sent tunnel)
    (silent : serialsOf packets = []) : (sender.moves sender.added tunnel packets).Invariant := by
  have covers := invariant.covers
  have same : covered sender.added tunnel = covered sender.added sender.tunnel := by
    rw [covered, covered, sent.controlc, sent.window]
  refine invariant.moves 0 0 ?_ ?_ ?_ ?_ ?_ le_rfl silent (.inl rfl)
    (.inl rfl) ?_
  · rw [sent.ip]
    exact invariant.ip
  · rw [sent.controlc]
    exact invariant.count
  · rw [sent.controlc]
    exact invariant.narrow
  · rw [sent.controls, sent.controlc]
    exact invariant.queue
  · rw [sent.controlc]
  · intro serial _ beyond reached
    omega

theorem serialsOf_tunnelsendAll (clock : Clock) (ip : tunnel.ip ≠ 0)
    (controls : List (Control (Nat × Body))) :
    serialsOf (tunnelsendAll clock tunnel controls).2 =
      controls.map fun control => control.body.1 := by
  rw [tunnelsendAll_packets, if_neg ip, serialsOf, List.filterMap_map]
  exact List.filterMap_eq_map ▸ rfl

theorem Invariant.controladd (invariant : sender.Invariant) (clock : Clock) (body : Body)
    (narrow : sender.tunnel.controlc + 1 < 2 ^ 16) :
    (sender.act (.controladd clock body)).Invariant := by
  have count := invariant.count
  have covers := invariant.covers
  have within := invariant.within
  have sent := controladd_sent clock sender.tunnel (sender.added, body)
  have controlc : (sender.tunnel.enqueue (sender.added, body)).controlc =
      sender.tunnel.controlc + 1 := Nat.mod_eq_of_lt narrow
  have head : sender.added + 1 - (sender.tunnel.controlc + 1) =
      sender.added - sender.tunnel.controlc := Nat.add_sub_add_right ..
  have queue : (sender.tunnel.enqueue (sender.added, body)).controls.map
      (fun control => control.body.1) =
        List.range' (sender.added - sender.tunnel.controlc) (sender.tunnel.controlc + 1) := by
    rw [List.range'_1_concat, ← invariant.queue, Nat.sub_add_cancel count]
    unfold Tunnel.enqueue
    dsimp only
    split
    · rename_i empty
      have length := congrArg List.length invariant.queue
      rw [List.length_map, List.length_range', empty] at length
      rw [List.length_eq_zero_iff.mp length]
      rfl
    · rw [List.map_append]
      rfl
  have packets := controladd_packets clock (sender.added, body) invariant.ip
  rw [Nat.mod_eq_of_lt narrow] at packets
  unfold covered at covers
  unfold act
  dsimp only
  generalize Channel.controladd clock sender.tunnel (sender.added, body) = result
    at sent packets ⊢
  have newCount : result.1.controlc = sender.tunnel.controlc + 1 := sent.controlc.trans controlc
  have window : result.1.window = sender.tunnel.window := sent.window
  refine invariant.moves sender.added
    (if sender.tunnel.controlc + 1 ≤ sender.tunnel.window then 1 else 0) ?_ ?_ ?_ ?_ ?_
    (Nat.le_succ _) ?_ (.inr (Nat.sub_le _ _)) ?_ ?_
  · exact sent.ip.trans_ne invariant.ip
  · omega
  · omega
  · rw [newCount, head, sent.controls]
    exact queue
  · omega
  · rw [packets]
    split <;> rfl
  · unfold covered
    rw [newCount, window]
    split
    · exact .inr (by omega)
    · exact .inl rfl
  · intro serial inQueue beyond reached
    unfold covered at reached
    rw [newCount, window] at reached
    split <;> omega

theorem serialsOf_pump (clock : Clock) (acked : Nat) {head : Nat}
    (ip : tunnel.ip ≠ 0) (queue : tunnel.controls.map (fun control => control.body.1) =
      List.range' head tunnel.controlc) :
    serialsOf (pump clock tunnel acked).2 =
      if tunnel.window - acked < tunnel.controlc then
        List.range' (head + (tunnel.window - acked))
          (min (tunnel.window - (tunnel.window - acked))
            (tunnel.controlc - (tunnel.window - acked)))
      else [] := by
  unfold pump
  dsimp only
  split
  · have open_ : ∀ burst : List (Control (Nat × Body)),
        (if burst.isEmpty then tunnel else { tunnel with tries := 0 }).ip ≠ 0 := by
      intro burst
      split <;> exact ip
    rw [serialsOf_tunnelsendAll clock (open_ _), List.map_take, List.map_drop, queue,
      List.drop_range', Nat.mul_one]
    generalize tunnel.controlc - (tunnel.window - acked) = left
    generalize tunnel.window - (tunnel.window - acked) = room
    rcases Nat.le_total room left with fits | exceeds
    · rw [List.take_range'_of_length_ge fits, min_eq_left fits]
    · rw [List.take_range'_of_length_le exceeds, min_eq_right exceeds]
  · rfl

/-- A message in sequence acknowledges some of the queue, and the pump sends what
that lets into the window. -/
theorem Invariant.receiveInSequence (invariant : sender.Invariant) (clock : Clock)
    {packet : Packet (Nat × Body)} (expected : packet.ns = sender.tunnel.nr) :
    (sender.act (.receive clock packet)).Invariant := by
  have count := invariant.count
  have narrow := invariant.narrow
  have covers := invariant.covers
  have within := invariant.within
  obtain ⟨acked, few, cleared⟩ := clearAcked_eq_drop sender.tunnel.ns packet.nr
    sender.tunnel.controlc sender.tunnel.controls
  have left : (sender.tunnel.acknowledge packet.nr).controlc = sender.tunnel.controlc - acked := by
    simp only [Tunnel.acknowledge, cleared]
  have kept : (sender.tunnel.acknowledge packet.nr).controls =
      sender.tunnel.controls.drop acked := by
    simp only [Tunnel.acknowledge, cleared]
  have head : sender.added - (sender.tunnel.controlc - acked) =
      sender.added - sender.tunnel.controlc + acked := by omega
  obtain ⟨after, result, finished⟩ := processudp_of_eq clock expected
  have controlc : (sender.tunnel.advance packet).controlc = sender.tunnel.controlc - acked :=
    (Tunnel.advance_controlc ..).trans left
  have queue : (sender.tunnel.advance packet).controls.map (fun control => control.body.1) =
      List.range' (sender.added - sender.tunnel.controlc + acked)
        (sender.tunnel.advance packet).controlc := by
    rw [Tunnel.advance_controls, controlc, kept, List.map_drop, invariant.queue, List.drop_range',
      Nat.mul_one]
  have ip : (sender.tunnel.advance packet).ip ≠ 0 :=
    (Tunnel.advance_ip ..).trans_ne invariant.ip
  have gone : sender.tunnel.controlc - (sender.tunnel.acknowledge packet.nr).controlc = acked := by
    omega
  have serials := serialsOf_pump clock acked ip queue
  have newCount : after.controlc = sender.tunnel.controlc - acked :=
    finished.controlc.trans controlc
  have newWindow : after.window = sender.tunnel.window :=
    finished.window.trans (Tunnel.advance_window ..)
  unfold act
  simp only [result, gone]
  unfold covered at covers
  rw [Tunnel.advance_window, controlc] at serials
  refine invariant.moves
    (sender.added - sender.tunnel.controlc + acked + (sender.tunnel.window - acked))
    (if sender.tunnel.window - acked < sender.tunnel.controlc - acked then
      min (sender.tunnel.window - (sender.tunnel.window - acked))
        (sender.tunnel.controlc - acked - (sender.tunnel.window - acked)) else 0)
    (finished.ip.trans_ne ip) ?_ ?_ ?_ ?_ le_rfl ?_ (.inr (by omega)) ?_ ?_
  · omega
  · omega
  · rw [finished.controls, newCount, head, queue, controlc]
  · omega
  · rw [serials]
    split <;> rfl
  · unfold covered
    rw [newCount, newWindow]
    split
    · exact .inr (by omega)
    · exact .inl rfl
  · intro serial inQueue beyond reached
    unfold covered at reached
    rw [newCount, newWindow] at reached
    split <;> omega

theorem Invariant.receive (invariant : sender.Invariant) (clock : Clock)
    (packet : Packet (Nat × Body)) : (sender.act (.receive clock packet)).Invariant := by
  by_cases expected : packet.ns = sender.tunnel.nr
  · exact invariant.receiveInSequence clock expected
  · obtain ⟨after, packets, result, sent, zlb⟩ := processudp_of_ne clock expected
    unfold act
    simp only [result]
    refine invariant.quiet sent (List.filterMap_eq_nil_iff.mpr fun packet member => ?_)
    rw [zlb packet member]
    rfl

theorem Invariant.rxWindow (invariant : sender.Invariant) (value : Nat)
    (narrows : covered sender.added (Channel.rxWindow sender.tunnel value) ≤ sender.reach) :
    (sender.act (.rxWindow value)).Invariant := by
  refine invariant.moves 0 0 invariant.ip invariant.count invariant.narrow invariant.queue le_rfl
    le_rfl rfl (.inl rfl) (.inl rfl) ?_
  intro serial _ beyond reached
  omega

/-- A retransmission sends what the window has long reached. -/
theorem Invariant.cleanup (invariant : sender.Invariant) (clock : Clock) :
    (sender.act (.cleanup clock)).Invariant := by
  have covers := invariant.covers
  unfold act
  dsimp only
  cases resending : resend clock sender.tunnel with
  | none => exact invariant
  | some result =>
      unfold resend at resending
      dsimp only at resending ⊢
      split_ifs at resending
      · obtain rfl := Option.some.inj resending
        have sent := tunnelsendAll_sent clock
          { sender.tunnel with tries := (sender.tunnel.tries + 1) % 2 ^ 8 }
          (sender.tunnel.controls.take sender.tunnel.window)
        refine invariant.moves (sender.added - sender.tunnel.controlc)
          (min sender.tunnel.controlc sender.tunnel.window) (sent.ip.trans_ne invariant.ip) ?_ ?_ ?_
          ?_ le_rfl ?_ (.inr le_rfl) ?_ ?_
        · exact sent.controlc.trans_le invariant.count
        · exact sent.controlc.trans_lt invariant.narrow
        · rw [sent.controlc, sent.controls]
          exact invariant.queue
        · rw [sent.controlc]
        · rw [serialsOf_tunnelsendAll clock (by exact invariant.ip), List.map_take, invariant.queue]
          rcases Nat.le_total sender.tunnel.window sender.tunnel.controlc with fits | exceeds
          · rw [List.take_range'_of_length_ge fits, min_eq_right fits]
          · rw [List.take_range'_of_length_le exceeds, min_eq_left exceeds]
        · unfold covered
          rw [sent.controlc, sent.window]
          exact .inr le_rfl
        · intro serial _ beyond reached
          unfold covered at reached covers
          rw [sent.controlc, sent.window] at reached
          dsimp only at reached
          omega
      · obtain rfl := Option.some.inj resending
        exact invariant.quiet (.refl _) rfl

theorem Invariant.act (invariant : sender.Invariant) (action : Action Body)
    (allowed : sender.Covered action) : (sender.act action).Invariant := by
  cases action with
  | controladd clock body => exact invariant.controladd clock body allowed
  | receive clock packet => exact invariant.receive clock packet
  | rxWindow value => exact invariant.rxWindow value allowed
  | cleanup clock => exact invariant.cleanup clock

theorem invariant_of_reachable (reached : (system Body).ReachableUnder Covered sender) :
    sender.Invariant := by
  refine reached.invariant (fun _ => Starts.invariant) ?_
  rintro sender action _ invariant allowed rfl
  exact invariant.act action allowed

/-- The control window, while it opens only over messages that an earlier window
covered and the queue stays within its count. -/
theorem window_transmitted (sender : Sender Body)
    (reached : (system Body).ReachableUnder Covered sender) :
    sender.Windowed ∧ sender.tunnel.controls.length = sender.tunnel.controlc := by
  have invariant := invariant_of_reachable reached
  refine ⟨invariant.windowed, ?_⟩
  have length := congrArg List.length invariant.queue
  rwa [List.length_map, List.length_range'] at length

/-- Opening the window further leaves the first message that no window covered
inside the window and untransmitted. -/
theorem Invariant.rxWindow_exposes (invariant : sender.Invariant) (value : Nat)
    (opens : sender.reach < covered sender.added (Channel.rxWindow sender.tunnel value))
    (waiting : sender.added - sender.tunnel.controlc ≤ sender.reach) :
    ¬ (sender.act (.rxWindow value)).Windowed := by
  intro windowed
  have inside : sender.reach ∈ (sender.tunnel.controls.map fun control => control.body.1).take
      (min (Channel.rxWindow sender.tunnel value).window sender.tunnel.controlc) := by
    rw [invariant.queue, List.take_range'_of_length_ge (min_le_right _ _), List.mem_range'_1]
    unfold covered at opens
    change _ < _ + min sender.tunnel.controlc _ at opens
    rw [Nat.min_comm]
    exact ⟨waiting, opens⟩
  rw [← List.map_take] at inside
  obtain ⟨control, member, serial⟩ := List.mem_map.mp inside
  have transmitted := windowed.inWindow control member
  change control.body.1 ∈ sender.transmitted at transmitted
  rw [serial] at transmitted
  exact lt_irrefl _ (invariant.below _ transmitted)

/-- A tunnel as `processudp` creates it, with the default window. -/
def opened : Sender Unit := ⟨⟨1, 4, 0, 0, 0, 0, 0, 0, []⟩, 0, [], 0⟩

/-- Five messages are queued, of which the window lets four out. -/
def filled : Sender Unit :=
  (List.replicate 5 (Action.controladd ⟨10, 1⟩ ())).foldl act opened

theorem filled_reachable : (system Unit).ReachableUnder Covered filled := by
  have starts : Starts opened := ⟨by decide, rfl, rfl, rfl, rfl, rfl⟩
  have add : ∀ sender : Sender Unit, (system Unit).ReachableUnder Covered sender →
      sender.tunnel.controlc + 1 < 2 ^ 16 →
        (system Unit).ReachableUnder Covered (sender.act (.controladd ⟨10, 1⟩ ())) :=
    fun _ reached narrow => .step (.controladd ⟨10, 1⟩ ()) reached narrow rfl
  exact add _ (add _ (add _ (add _ (add _ (.initial starts) (by decide)) (by decide)) (by decide))
    (by decide)) (by decide)

theorem window_transmitted_filled :
    filled.Windowed ∧ filled.tunnel.controls.length = filled.tunnel.controlc :=
  window_transmitted filled filled_reachable

/-- A window of eight announced while five messages are queued and four were sent. -/
theorem window_opened_untransmitted :
    (system Unit).Reachable (filled.act (.rxWindow 8)) ∧
      ¬ (filled.act (.rxWindow 8)).Windowed := by
  constructor
  · exact .step (.rxWindow 8) (filled_reachable.weaken fun _ _ _ => trivial) trivial rfl
  · exact (invariant_of_reachable filled_reachable).rxWindow_exposes 8 (by decide) (by decide)

end Sender

end L2tpns.Channel
