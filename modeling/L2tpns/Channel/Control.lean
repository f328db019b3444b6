import Mathlib.Algebra.Group.Int.Defs
import Mathlib.Algebra.GroupWithZero.Nat
import Mathlib.Tactic.Common

/-! # The reliable control channel of a tunnel

Control messages are queued on the tunnel until the peer acknowledges them. The
first `window` of the queue are on the wire; the others wait for an
acknowledgement to let them in. Sequence numbers, the queue length and the
window are 16 bits wide. A message is its `Ns`, written once when it is queued,
and its contents; `Nr` is written when the message is sent.
-/

namespace L2tpns.Channel

variable {Body : Type}

/-- A message of the queue. -/
structure Control (Body : Type) where
  ns : Nat
  body : Body
deriving DecidableEq, Repr

/-- A control datagram; one without a body is a ZLB. -/
structure Packet (Body : Type) where
  ns : Nat
  nr : Nat
  body : Option Body
deriving DecidableEq, Repr

/-- The fields of `tunnelt` that the channel uses. -/
structure Tunnel (Body : Type) where
  ip : Nat
  window : Nat
  nr : Nat
  ns : Nat
  last : Nat
  retry : Nat
  tries : Nat
  controlc : Nat
  controls : List (Control Body)
deriving DecidableEq, Repr

/-- `TIME` in tenths and `time_now` in seconds. -/
structure Clock where
  time : Nat
  timeNow : Nat

/-- When to retry: an exponential backoff bounded by 32 seconds. -/
def backoff (clock : Clock) (tries : Nat) : Nat :=
  (clock.time + 10 * 2 ^ min tries 5) % 2 ^ 32

/-- Send a control datagram with the present `Nr`. -/
def tunnelsend (clock : Clock) (tunnel : Tunnel Body) (ns : Nat) (body : Option Body) :
    Tunnel Body × List (Packet Body) :=
  if tunnel.ip = 0 then (tunnel, [])
  else
    ({ tunnel with last := clock.timeNow, retry := backoff clock tunnel.tries },
      [⟨ns, tunnel.nr, body⟩])

def tunnelsendAll (clock : Clock) (tunnel : Tunnel Body) :
    List (Control Body) → Tunnel Body × List (Packet Body)
  | [] => (tunnel, [])
  | control :: controls =>
      let (sent, first) := tunnelsend clock tunnel control.ns (some control.body)
      let (done, rest) := tunnelsendAll clock sent controls
      (done, first ++ rest)

/-- Send a ZLB if nothing is waiting; a queued message will carry the ack. -/
def controlnull (clock : Clock) (tunnel : Tunnel Body) : Tunnel Body × List (Packet Body) :=
  if tunnel.controlc ≠ 0 then (tunnel, [])
  else tunnelsend clock tunnel tunnel.ns none

/-- Append to the queue; a queue whose count is zero is replaced. -/
def Tunnel.enqueue (tunnel : Tunnel Body) (body : Body) : Tunnel Body :=
  { tunnel with
    ns := (tunnel.ns + 1) % 2 ^ 16
    controls :=
      if tunnel.controlc = 0 then [⟨tunnel.ns, body⟩] else tunnel.controls ++ [⟨tunnel.ns, body⟩]
    controlc := (tunnel.controlc + 1) % 2 ^ 16 }

/-- Add a control message, and send it if it is within the window. -/
def controladd (clock : Clock) (tunnel : Tunnel Body) (body : Body) :
    Tunnel Body × List (Packet Body) :=
  let queued := tunnel.enqueue body
  if queued.controlc ≤ queued.window then
    tunnelsend clock { queued with tries := 0 } tunnel.ns (some body)
  else (queued, [])

/-- `value & 0x8000` for an `int`. -/
def bit15 (value : Int) : Bool := decide (2 ^ 15 ≤ value % 2 ^ 16)

/-- Drop acknowledged messages from the front of the queue. -/
def clearAcked (ns nr : Nat) : Nat → List (Control Body) → Nat × List (Control Body)
  | 0, controls => (0, controls)
  | controlc + 1, controls =>
      if bit15 ((ns : Int) - (controlc + 1 : Nat) - nr) then
        clearAcked ns nr controlc controls.tail
      else (controlc + 1, controls)

/-- Take an acknowledgement of everything before `nr`. -/
def Tunnel.acknowledge (tunnel : Tunnel Body) (nr : Nat) : Tunnel Body :=
  let cleared := clearAcked tunnel.ns nr tunnel.controlc tunnel.controls
  { tunnel with
    controlc := cleared.1
    controls := cleared.2
    tries := if cleared.1 < tunnel.controlc then 0 else tunnel.tries }

/-- Send what an acknowledgement of `acked` messages let into the window. -/
def pump (clock : Clock) (tunnel : Tunnel Body) (acked : Nat) :
    Tunnel Body × List (Packet Body) :=
  -- how many in-window messages are still in the queue, never negative
  let skip := tunnel.window - acked
  if skip < tunnel.controlc then
    let burst := (tunnel.controls.drop skip).take (tunnel.window - skip)
    tunnelsendAll clock (if burst.isEmpty then tunnel else { tunnel with tries := 0 }) burst
  else (tunnel, [])

/-- Take the acknowledgement of a datagram in sequence, and count its message. -/
def Tunnel.advance (tunnel : Tunnel Body) (packet : Packet Body) : Tunnel Body :=
  let cleared := tunnel.acknowledge packet.nr
  if packet.body.isSome then { cleared with nr := (packet.ns + 1) % 2 ^ 16 } else cleared

/-- `processudp` on a control datagram up to the processing of its AVPs. The last
component is the body that is handed to the AVP loop. -/
def processudp (clock : Clock) (tunnel : Tunnel Body) (packet : Packet Body) :
    Tunnel Body × List (Packet Body) × Option Body :=
  if packet.ns ≠ tunnel.nr then
    -- out of sequence: acknowledge what we have, unless it is a ZLB
    if packet.body.isSome then
      let (answered, packets) := controlnull clock tunnel
      (answered, packets, none)
    else (tunnel, [], none)
  else
    let advanced := tunnel.advance packet
    let (pumped, packets) := pump clock advanced (tunnel.controlc - advanced.controlc)
    (if pumped.controlc = 0 then { pumped with retry := 0 } else pumped, packets, packet.body)

/-- The Receive Window Size AVP. -/
def rxWindow (tunnel : Tunnel Body) (value : Nat) : Tunnel Body :=
  { tunnel with window := if value = 0 then 1 else value }

/-- `regular_cleanups` on a tunnel whose messages are not acknowledged: resend the
window, or give up, which kills the tunnel. -/
def resend (clock : Clock) (tunnel : Tunnel Body) : Option (Tunnel Body × List (Packet Body)) :=
  if tunnel.retry ≠ 0 ∧ tunnel.controlc ≠ 0 ∧ tunnel.retry ≤ clock.time then
    let again := { tunnel with tries := (tunnel.tries + 1) % 2 ^ 8 }
    if again.tries > 5 then none
    else some (tunnelsendAll clock again (tunnel.controls.take tunnel.window))
  else some (tunnel, [])

/-- `tunnel` after some datagrams were sent from it. -/
structure Tunnel.Sent (tunnel after : Tunnel Body) : Prop where
  ip : after.ip = tunnel.ip
  window : after.window = tunnel.window
  nr : after.nr = tunnel.nr
  ns : after.ns = tunnel.ns
  controlc : after.controlc = tunnel.controlc
  controls : after.controls = tunnel.controls

theorem Tunnel.Sent.refl (tunnel : Tunnel Body) : tunnel.Sent tunnel :=
  ⟨rfl, rfl, rfl, rfl, rfl, rfl⟩

theorem Tunnel.Sent.trans {first second third : Tunnel Body} (before : first.Sent second)
    (after : second.Sent third) : first.Sent third :=
  ⟨after.ip.trans before.ip, after.window.trans before.window, after.nr.trans before.nr,
    after.ns.trans before.ns, after.controlc.trans before.controlc,
    after.controls.trans before.controls⟩

variable {tunnel : Tunnel Body} {packet : Packet Body} (clock : Clock)

theorem tunnelsend_sent (tunnel : Tunnel Body) (ns : Nat) (body : Option Body) :
    tunnel.Sent (tunnelsend clock tunnel ns body).1 := by
  unfold tunnelsend
  split <;> exact ⟨rfl, rfl, rfl, rfl, rfl, rfl⟩

theorem tunnelsendAll_sent (tunnel : Tunnel Body) (controls : List (Control Body)) :
    tunnel.Sent (tunnelsendAll clock tunnel controls).1 := by
  induction controls generalizing tunnel with
  | nil => exact .refl tunnel
  | cons control controls ih =>
      exact (tunnelsend_sent clock tunnel control.ns (some control.body)).trans (ih _)

theorem tunnelsendAll_packets (tunnel : Tunnel Body) (controls : List (Control Body)) :
    (tunnelsendAll clock tunnel controls).2 =
      if tunnel.ip = 0 then []
      else controls.map fun control => ⟨control.ns, tunnel.nr, some control.body⟩ := by
  induction controls generalizing tunnel with
  | nil => simp only [tunnelsendAll, List.map_nil, ite_self]
  | cons control controls ih =>
      have sent := tunnelsend_sent clock tunnel control.ns (some control.body)
      simp only [tunnelsendAll, ih, sent.ip, sent.nr]
      by_cases closed : tunnel.ip = 0
      · simp only [tunnelsend, closed, ↓reduceIte, List.append_nil]
      · simp only [tunnelsend, closed, ↓reduceIte, List.map_cons, List.singleton_append]

theorem mem_tunnelsend {clock : Clock} {ns : Nat} {body : Option Body}
    (sent : packet ∈ (tunnelsend clock tunnel ns body).2) :
    packet = ⟨ns, tunnel.nr, body⟩ := by
  unfold tunnelsend at sent
  split at sent
  · exact absurd sent List.not_mem_nil
  · exact List.mem_singleton.mp sent

theorem mem_tunnelsendAll {clock : Clock} {controls : List (Control Body)}
    (sent : packet ∈ (tunnelsendAll clock tunnel controls).2) :
    ∃ control ∈ controls, packet = ⟨control.ns, tunnel.nr, some control.body⟩ := by
  rw [tunnelsendAll_packets] at sent
  split at sent
  · exact absurd sent List.not_mem_nil
  · obtain ⟨control, member, same⟩ := List.mem_map.mp sent
    exact ⟨control, member, same.symm⟩

theorem controlnull_sent (tunnel : Tunnel Body) : tunnel.Sent (controlnull clock tunnel).1 := by
  unfold controlnull
  split
  · exact .refl tunnel
  · exact tunnelsend_sent ..

theorem mem_controlnull {clock : Clock} (sent : packet ∈ (controlnull clock tunnel).2) :
    tunnel.controlc = 0 ∧ packet = ⟨tunnel.ns, tunnel.nr, none⟩ := by
  unfold controlnull at sent
  split at sent
  · exact absurd sent List.not_mem_nil
  · rename_i empty
    exact ⟨not_not.mp empty, mem_tunnelsend sent⟩

theorem controladd_sent (tunnel : Tunnel Body) (body : Body) :
    (tunnel.enqueue body).Sent (controladd clock tunnel body).1 := by
  unfold controladd
  dsimp only
  split
  · have reset : (tunnel.enqueue body).Sent { tunnel.enqueue body with tries := 0 } :=
      ⟨rfl, rfl, rfl, rfl, rfl, rfl⟩
    exact reset.trans (tunnelsend_sent ..)
  · exact .refl _

theorem mem_controladd {clock : Clock} {body : Body}
    (sent : packet ∈ (controladd clock tunnel body).2) :
    packet = ⟨tunnel.ns, tunnel.nr, some body⟩ := by
  unfold controladd at sent
  dsimp only at sent
  split at sent
  · rw [mem_tunnelsend sent]
    rfl
  · exact absurd sent List.not_mem_nil

theorem controladd_packets (body : Body) (open_ : tunnel.ip ≠ 0) :
    (controladd clock tunnel body).2 =
      if (tunnel.controlc + 1) % 2 ^ 16 ≤ tunnel.window then [⟨tunnel.ns, tunnel.nr, some body⟩]
      else [] := by
  change (if (tunnel.controlc + 1) % 2 ^ 16 ≤ tunnel.window then
    tunnelsend clock { tunnel.enqueue body with tries := 0 } tunnel.ns (some body)
      else (tunnel.enqueue body, [])).2 = _
  rw [apply_ite Prod.snd, tunnelsend]
  have shut : ¬ { tunnel.enqueue body with tries := 0 }.ip = 0 := open_
  rw [if_neg shut]
  rfl

theorem pump_sent (tunnel : Tunnel Body) (acked : Nat) :
    tunnel.Sent (pump clock tunnel acked).1 := by
  unfold pump
  dsimp only
  split
  · refine Tunnel.Sent.trans ?_ (tunnelsendAll_sent ..)
    split
    · exact .refl tunnel
    · exact ⟨rfl, rfl, rfl, rfl, rfl, rfl⟩
  · exact .refl tunnel

theorem mem_pump {clock : Clock} {acked : Nat} (sent : packet ∈ (pump clock tunnel acked).2) :
    ∃ control ∈ tunnel.controls, packet = ⟨control.ns, tunnel.nr, some control.body⟩ := by
  unfold pump at sent
  dsimp only at sent
  split at sent
  · obtain ⟨control, member, same⟩ := mem_tunnelsendAll sent
    refine ⟨control, List.mem_of_mem_drop (List.mem_of_mem_take member), ?_⟩
    rw [same]
    split <;> rfl
  · exact absurd sent List.not_mem_nil

@[simp] theorem Tunnel.advance_ip (tunnel : Tunnel Body) (packet : Packet Body) :
    (tunnel.advance packet).ip = tunnel.ip := by
  unfold Tunnel.advance
  split <;> rfl

@[simp] theorem Tunnel.advance_window (tunnel : Tunnel Body) (packet : Packet Body) :
    (tunnel.advance packet).window = tunnel.window := by
  unfold Tunnel.advance
  split <;> rfl

@[simp] theorem Tunnel.advance_ns (tunnel : Tunnel Body) (packet : Packet Body) :
    (tunnel.advance packet).ns = tunnel.ns := by
  unfold Tunnel.advance
  split <;> rfl

@[simp] theorem Tunnel.advance_nr (tunnel : Tunnel Body) (packet : Packet Body) :
    (tunnel.advance packet).nr =
      if packet.body.isSome then (packet.ns + 1) % 2 ^ 16 else tunnel.nr := by
  unfold Tunnel.advance
  split <;> rfl

@[simp] theorem Tunnel.advance_controlc (tunnel : Tunnel Body) (packet : Packet Body) :
    (tunnel.advance packet).controlc = (tunnel.acknowledge packet.nr).controlc := by
  unfold Tunnel.advance
  split <;> rfl

@[simp] theorem Tunnel.advance_controls (tunnel : Tunnel Body) (packet : Packet Body) :
    (tunnel.advance packet).controls = (tunnel.acknowledge packet.nr).controls := by
  unfold Tunnel.advance
  split <;> rfl

theorem processudp_of_ne (other : packet.ns ≠ tunnel.nr) :
    ∃ after packets, processudp clock tunnel packet = (after, packets, none) ∧
      tunnel.Sent after ∧ ∀ zlb ∈ packets, zlb = ⟨tunnel.ns, tunnel.nr, none⟩ := by
  unfold processudp
  rw [if_pos other]
  split
  · exact ⟨_, _, rfl, controlnull_sent .., fun zlb sent => (mem_controlnull sent).2⟩
  · exact ⟨_, _, rfl, .refl _, fun zlb sent => absurd sent List.not_mem_nil⟩

/-- In sequence, a datagram is taken and what it lets into the window is sent. -/
theorem processudp_of_eq (expected : packet.ns = tunnel.nr) :
    ∃ after, processudp clock tunnel packet =
        (after, (pump clock (tunnel.advance packet)
          (tunnel.controlc - (tunnel.acknowledge packet.nr).controlc)).2, packet.body) ∧
      (tunnel.advance packet).Sent after := by
  unfold processudp
  rw [if_neg (not_not.mpr expected)]
  dsimp only
  rw [Tunnel.advance_controlc]
  refine ⟨_, rfl, ?_⟩
  have pumped := pump_sent clock (tunnel.advance packet)
    (tunnel.controlc - (tunnel.acknowledge packet.nr).controlc)
  split
  · exact pumped.trans ⟨rfl, rfl, rfl, rfl, rfl, rfl⟩
  · exact pumped

theorem clearAcked_eq_drop (ns nr controlc : Nat) (controls : List (Control Body)) :
    ∃ acked ≤ controlc, clearAcked ns nr controlc controls =
      (controlc - acked, controls.drop acked) := by
  induction controlc generalizing controls with
  | zero => exact ⟨0, Nat.le_refl 0, rfl⟩
  | succ controlc ih =>
      unfold clearAcked
      split
      · obtain ⟨acked, within, cleared⟩ := ih controls.tail
        refine ⟨acked + 1, by omega, ?_⟩
        rw [cleared, ← List.drop_one, List.drop_drop, Nat.add_comm 1 acked, Nat.add_sub_add_right]
      · exact ⟨0, Nat.zero_le _, rfl⟩

end L2tpns.Channel
