import L2tpns.Cluster.Bytes

/-! # Free traffic on a slave

Traffic with networks of a zone is free. A slave counts its bytes beside the others, in the
session and in counters of its own that are to go to the master. The messages to the master
have no place for them, and the rounds leave them where they are: what a slave counted
arrives exactly if it counted nothing (`L2tpns.Cluster.FreeTraffic.delivered_iff`).
-/

namespace L2tpns.Cluster.FreeTraffic

open Bytes

/-- The two characters of `free_traffic`. -/
structure Zone where
  x : UInt8
  y : UInt8
deriving DecidableEq, Repr

/-- `free_networkt` -/
structure FreeNetwork where
  host : UInt32
  mask : UInt32
deriving DecidableEq, Repr

/-- An address as it is read from a packet; it is not converted to the order of the host. -/
def readAddress (buf : List UInt8) (i : Nat) : UInt32 :=
  (buf.getD i 0).toUInt32 ||| (buf.getD (i + 1) 0).toUInt32 <<< 8 |||
    (buf.getD (i + 2) 0).toUInt32 <<< 16 ||| (buf.getD (i + 3) 0).toUInt32 <<< 24

/-- Whether a packet is an IPv4 packet to a network of the zone. -/
def freeTraffic (zones : Zone → List FreeNetwork) (zone : Zone) (buf : List UInt8) (len : UInt32) :
    Bool :=
  if len < 20 then false
  else if buf.getD 0 0 >>> 4 ≠ 4 then false
  else
    let dstIp := readAddress buf 16
    (zones zone).any fun network => dstIp &&& network.mask = network.host &&& network.mask

/-- The free traffic of a session in one direction (`fcin`, `fcin_wrap` and `fcin_delta`, or
`fcout`, `fcout_wrap` and `fcout_delta`). -/
structure FreeCounter where
  bytes : UInt32
  wrap : UInt32
  delta : UInt32
deriving DecidableEq, Repr

def FreeCounter.add (counter : FreeCounter) (len : UInt32) : FreeCounter :=
  let (bytes, wrap) := incrementCounter counter.bytes counter.wrap len
  ⟨bytes, wrap, counter.delta + len⟩

/-- The 64-bit value. -/
def FreeCounter.wide (counter : FreeCounter) : Nat :=
  counter.wrap.toNat * 2 ^ 32 + counter.bytes.toNat

/-- A slave with what it has for free traffic: the zones, the zone and the counters of each
session, and the counters that are to go to the master. -/
structure Forwarder where
  slave : Slave
  zones : Zone → List FreeNetwork
  zone : Nat → Zone
  free : Nat → Direction → FreeCounter
  freeLocal : Nat → Direction → UInt32

/-- The sessions of the master. -/
structure Accountant where
  session : Nat → Counters
  zone : Nat → Zone
  free : Nat → Direction → FreeCounter

namespace Forwarder

variable (forwarder : Forwarder)

/-- Count a packet, or a part of it, if it is free. -/
def countFree (direction : Direction) (s : Nat) (buf : List UInt8) (len : UInt32) : Forwarder :=
  if freeTraffic forwarder.zones (forwarder.zone s) buf len then
    { forwarder with
      free := Function.update forwarder.free s
        (Function.update (forwarder.free s) direction ((forwarder.free s direction).add len))
      freeLocal := Function.update forwarder.freeLocal s
        (Function.update (forwarder.freeLocal s) direction
          (forwarder.freeLocal s direction + len)) }
  else forwarder

/-- Count the frames that a packet from the user came in. -/
def updateSessionsInStat (frames : List (Nat × UInt32)) (buf : List UInt8) : Forwarder :=
  frames.foldl (fun forwarder (s, len) =>
    let counted := forwarder.countFree .inward s buf len
    { counted with slave := (counted.slave.addSession .inward s len).addLocal .inward s len })
    forwarder

/-- The counting of `processipout`. -/
def processipout (frames : List (Nat × UInt32)) (s : Nat) (buf : List UInt8) (len : UInt32) :
    Forwarder :=
  { forwarder.countFree .outward s buf len with
    slave := forwarder.slave.processipout frames s len }

/-- The counting of `processipv6out` and `send_ipout`. -/
def processipv6out (s : Nat) (buf : List UInt8) (len : UInt32) : Forwarder :=
  { forwarder.countFree .outward s buf len with
    slave := forwarder.slave.processipv6out s len }

/-- The counting of `processipv6in`, which is never free. -/
def processipv6in (s : Nat) (len : UInt32) : Forwarder :=
  { forwarder with
    slave := (forwarder.slave.addSession .inward s len).addLocal .inward s len }

def recvSession (accountant : Accountant) (s : Nat) : Forwarder :=
  { forwarder with
    slave := { forwarder.slave with
      session := Function.update forwarder.slave.session s (accountant.session s) }
    zone := Function.update forwarder.zone s (accountant.zone s)
    free := Function.update forwarder.free s (accountant.free s) }

end Forwarder

/-- A slave and its master. The rest is history: what the master had at first, and the bytes
that the slave forwarded since, all and free ones. -/
structure Run where
  forwarder : Forwarder
  accountant : Accountant
  start : Accountant
  forwarded : Nat → Direction → Nat
  counted : Nat → Direction → Nat

inductive Action where
  | processipin (frames : List (Nat × UInt32)) (buf : List UInt8)
  | processipv6in (s : Nat) (len : UInt32)
  | processipout (frames : List (Nat × UInt32)) (s : Nat) (buf : List UInt8) (len : UInt32)
  | processipv6out (s : Nat) (buf : List UInt8) (len : UInt32)
  | round (timeNow : Nat)
  | recvSession (s : Nat)
  | setZone (s : Nat) (zone : Zone)
  | learn (highestSessionid masterAddress timeNow : Nat)

/-- The bytes of a packet, or of a part of it, that are free. -/
def freeIn (forwarder : Forwarder) (direction : Direction) (buf : List UInt8) (s' : Nat)
    (len : UInt32) (s : Nat) (d : Direction) : Nat :=
  if freeTraffic forwarder.zones (forwarder.zone s') buf len then bytesIn direction s' len s d
  else 0

namespace Run

def act (run : Run) : Action → Run
  | .processipin frames buf =>
      { run with
        forwarder := run.forwarder.updateSessionsInStat frames buf
        forwarded := fun s d => run.forwarded s d + framesIn .inward frames s d
        counted := fun s d => run.counted s d +
          (frames.map fun (s', len) => freeIn run.forwarder .inward buf s' len s d).sum }
  | .processipv6in s len =>
      { run with
        forwarder := run.forwarder.processipv6in s len
        forwarded := fun s' d => run.forwarded s' d + bytesIn .inward s len s' d }
  | .processipout frames s buf len =>
      { run with
        forwarder := run.forwarder.processipout frames s buf len
        forwarded := fun s' d => run.forwarded s' d + framesIn .outward frames s' d
        counted := fun s' d => run.counted s' d + freeIn run.forwarder .outward buf s len s' d }
  | .processipv6out s buf len =>
      { run with
        forwarder := run.forwarder.processipv6out s buf len
        forwarded := fun s' d => run.forwarded s' d + bytesIn .outward s len s' d
        counted := fun s' d => run.counted s' d + freeIn run.forwarder .outward buf s len s' d }
  | .round timeNow =>
      let (slave, b) := run.forwarder.slave.masterUpdateCounts
      { run with
        forwarder := { run.forwarder with slave := slave }
        accountant := { run.accountant with
          session := clusterHandleBytes timeNow run.accountant.session b } }
  | .recvSession s =>
      { run with forwarder := run.forwarder.recvSession run.accountant s }
  | .setZone s zone =>
      { run with accountant := { run.accountant with
          zone := Function.update run.accountant.zone s zone } }
  | .learn highestSessionid masterAddress timeNow =>
      { run with forwarder := { run.forwarder with slave := { run.forwarder.slave with
          highestSessionid := highestSessionid
          masterAddress := masterAddress
          timeNow := timeNow } } }

/-- The slave has counted nothing yet. -/
structure Starts (run : Run) : Prop where
  unsent : ∀ s d, run.forwarder.slave.sessLocal s d = .zero
  freeLocal : ∀ s d, run.forwarder.freeLocal s d = 0
  start : run.start = run.accountant
  forwarded : ∀ s d, run.forwarded s d = 0
  counted : ∀ s d, run.counted s d = 0

def system : Foundation.TransitionSystem Run Action where
  initial := Starts
  step run action next := next = run.act action

/-- All free bytes of a session that the slave counted are the master's, and nothing remains on
the slave. -/
structure Delivered (run : Run) (s : Nat) (d : Direction) : Prop where
  bytes : (run.accountant.free s d).wide = ((run.start.free s d).wide + run.counted s d) % 2 ^ 64
  delta : (run.accountant.free s d).delta.toNat =
    ((run.start.free s d).delta.toNat + run.counted s d) % 2 ^ 32
  remains : run.forwarder.freeLocal s d = 0

end Run

namespace Forwarder

/-- A step adds `amount` to the free bytes that are to go to the master. -/
def Gains (amount : Nat → Direction → Nat) (forwarder next : Forwarder) : Prop :=
  ∀ s d, (next.freeLocal s d).toNat = ((forwarder.freeLocal s d).toNat + amount s d) % 2 ^ 32

variable (forwarder : Forwarder)

theorem gains_same {next : Forwarder} (same : next.freeLocal = forwarder.freeLocal) :
    forwarder.Gains (fun _ _ => 0) next := by
  intro s d
  rw [same, Nat.add_zero]
  exact (Nat.mod_eq_of_lt (forwarder.freeLocal s d).toNat_lt).symm

theorem countFree_gains (direction : Direction) (s : Nat) (buf : List UInt8) (len : UInt32) :
    forwarder.Gains (freeIn forwarder direction buf s len)
      (forwarder.countFree direction s buf len) := by
  intro s' d
  rw [freeIn, countFree]
  by_cases free : freeTraffic forwarder.zones (forwarder.zone s) buf len
  · rw [if_pos free, if_pos free, bytesIn]
    dsimp only
    by_cases same : s' = s
    · rw [same, Function.update_self]
      by_cases along : d = direction
      · rw [along, Function.update_self, if_pos ⟨rfl, rfl⟩]
        exact UInt32.toNat_add _ _
      · rw [Function.update_of_ne along, if_neg fun both => along both.2]
        exact (Nat.mod_eq_of_lt (forwarder.freeLocal s d).toNat_lt).symm
    · rw [Function.update_of_ne same, if_neg fun both => same both.1]
      exact (Nat.mod_eq_of_lt (forwarder.freeLocal s' d).toNat_lt).symm
  · rw [if_neg free, if_neg free]
    exact (Nat.mod_eq_of_lt (forwarder.freeLocal s' d).toNat_lt).symm

theorem countFree_zones (direction : Direction) (s : Nat) (buf : List UInt8) (len : UInt32) :
    (forwarder.countFree direction s buf len).zones = forwarder.zones ∧
      (forwarder.countFree direction s buf len).zone = forwarder.zone := by
  rw [countFree]
  split
  · exact ⟨rfl, rfl⟩
  · exact ⟨rfl, rfl⟩

theorem updateSessionsInStat_gains (frames : List (Nat × UInt32)) (buf : List UInt8) :
    forwarder.Gains
      (fun s d => (frames.map fun (s', len) => freeIn forwarder .inward buf s' len s d).sum)
      (forwarder.updateSessionsInStat frames buf) := by
  induction frames generalizing forwarder with
  | nil => exact forwarder.gains_same rfl
  | cons frame rest ih =>
      intro s d
      have first := forwarder.countFree_gains .inward frame.1 buf frame.2 s d
      have zones := forwarder.countFree_zones .inward frame.1 buf frame.2
      have after := ih { forwarder.countFree .inward frame.1 buf frame.2 with
        slave := ((forwarder.countFree .inward frame.1 buf frame.2).slave.addSession .inward
          frame.1 frame.2).addLocal .inward frame.1 frame.2 } s d
      rw [first, Nat.mod_add_mod, Nat.add_assoc] at after
      dsimp only
      rw [List.map_cons, List.sum_cons]
      have same : forwarder.updateSessionsInStat (frame :: rest) buf =
          Forwarder.updateSessionsInStat { forwarder.countFree .inward frame.1 buf frame.2 with
            slave := ((forwarder.countFree .inward frame.1 buf frame.2).slave.addSession .inward
              frame.1 frame.2).addLocal .inward frame.1 frame.2 } rest buf := rfl
      rw [same]
      simp only [freeIn, zones.1, zones.2] at after ⊢
      exact after

end Forwarder

namespace Run

/-- The master has what it had, and the slave all that it counted. -/
structure Kept (run : Run) : Prop where
  master : run.accountant.free = run.start.free
  slave : ∀ s d, (run.forwarder.freeLocal s d).toNat = run.counted s d % 2 ^ 32

variable {run : Run}

theorem Starts.kept (starts : run.Starts) : run.Kept where
  master := congrArg Accountant.free starts.start.symm
  slave s d := by
    rw [starts.freeLocal, starts.counted]
    rfl

theorem Kept.gains (kept : run.Kept) {amount : Nat → Direction → Nat} {next : Forwarder}
    (gains : run.forwarder.Gains amount next) (s : Nat) (d : Direction) :
    (next.freeLocal s d).toNat = (run.counted s d + amount s d) % 2 ^ 32 := by
  rw [gains, kept.slave, Nat.mod_add_mod]

theorem Kept.act (kept : run.Kept) (action : Action) : (run.act action).Kept := by
  cases action with
  | processipin frames buf =>
      exact ⟨kept.master, kept.gains (run.forwarder.updateSessionsInStat_gains frames buf)⟩
  | processipv6in s len | round timeNow | recvSession s | setZone s zone
  | learn highestSessionid masterAddress timeNow => exact ⟨kept.master, kept.slave⟩
  | processipout frames s buf len | processipv6out s buf len =>
      exact ⟨kept.master, kept.gains (run.forwarder.countFree_gains .outward s buf len)⟩

theorem kept_of_reachable (reached : system.Reachable run) : run.Kept := by
  refine reached.invariant ?_ ?_
  · intro state starts
    exact Starts.kept starts
  · intro state action next kept acts
    rw [show next = state.act action from acts]
    exact kept.act action

end Run

theorem FreeCounter.wide_lt (counter : FreeCounter) : counter.wide < 2 ^ 64 := by
  have wrap := counter.wrap.toNat_lt
  have bytes := counter.bytes.toNat_lt
  rw [FreeCounter.wide]
  omega

/-- **Free traffic on the way to the master.** In every state that a slave and its master reach,
the free bytes of a session are with the master, and none remain on the slave, if and only if
the slave has counted none, or a multiple of 2^64. -/
theorem delivered_iff {run : Run} (reached : Run.system.Reachable run) (s : Nat) (d : Direction) :
    run.Delivered s d ↔ run.counted s d % 2 ^ 64 = 0 := by
  have kept := Run.kept_of_reachable reached
  have small := (run.start.free s d).wide_lt
  constructor
  · intro delivered
    have bytes := delivered.bytes
    rw [kept.master] at bytes
    omega
  · intro nothing
    refine ⟨?_, ?_, ?_⟩
    · rw [kept.master]
      omega
    · have delta := (run.start.free s d).delta.toNat_lt
      rw [kept.master]
      omega
    · refine UInt32.toNat_inj.mp ((kept.slave s d).trans ?_)
      change _ = 0
      omega

theorem walkCounts_idle (i : Nat) (slave : Slave) (b : List BytesRecord)
    (idle : ∀ s d, slave.sessLocal s d = .zero) :
    (Slave.walkCounts i slave b).1.sessLocal = slave.sessLocal := by
  induction i generalizing slave b with
  | zero => rfl
  | succ i ih =>
      rw [Slave.walkCounts]
      dsimp only
      rw [idle, idle, if_pos ⟨rfl, rfl⟩]
      exact ih _ b idle

/-- A round takes what is counted for the only session that has counted something, if that is
the next. -/
theorem masterUpdateCounts_next (slave : Slave) (master : slave.masterAddress ≠ 0)
    (below : slave.walkSessionNumber + 1 ≤ slave.highestSessionid)
    (counted : ¬ ((slave.sessLocal (slave.walkSessionNumber + 1) .inward).bytes = 0 ∧
      (slave.sessLocal (slave.walkSessionNumber + 1) .outward).bytes = 0))
    (others : ∀ s d, s ≠ slave.walkSessionNumber + 1 → slave.sessLocal s d = .zero) (s : Nat)
    (d : Direction) : slave.masterUpdateCounts.1.sessLocal s d = .zero := by
  rw [Slave.masterUpdateCounts]
  rw [if_neg master]
  dsimp only
  obtain ⟨rest, turns⟩ : ∃ rest, (if slave.highestSessionid > Slave.maxBRecs * 5 then
      slave.highestSessionid else Slave.maxBRecs * 5) = rest + 1 := by
    have size : Slave.maxBRecs = 600 := rfl
    refine ⟨_ - 1, (Nat.sub_add_cancel ?_).symm⟩
    split <;> omega
  rw [turns, Slave.walkCounts]
  dsimp only
  rw [if_neg (Nat.not_lt.mpr below), if_neg counted]
  have single : ¬ ([] ++ [BytesRecord.mk (slave.walkSessionNumber + 1)
      (slave.sessLocal (slave.walkSessionNumber + 1))]).length > Slave.maxBRecs := by
    rw [List.nil_append, List.length_singleton]
    decide
  rw [if_neg single]
  have idle : ∀ s d, Function.update slave.sessLocal (slave.walkSessionNumber + 1)
      (fun _ => .zero) s d = .zero := by
    intro s d
    by_cases same : s = slave.walkSessionNumber + 1
    · rw [same, Function.update_self]
    · rw [Function.update_of_ne same]
      exact others s d same
  rw [walkCounts_idle _ _ _ idle]
  exact idle s d

/-- All addresses are free in every zone. -/
def freeZones : Zone → List FreeNetwork := fun _ => [⟨0, 0⟩]

/-- A slave whose next session in the walk is session 5. -/
def quietSlave : Slave := ⟨fun _ => .zero, fun _ _ => .zero, 5, 4, 1, 0⟩

/-- The slave has forwarded nothing yet. -/
def quietRun (zones : Zone → List FreeNetwork) : Run where
  forwarder := ⟨quietSlave, zones, fun _ => ⟨97, 98⟩, fun _ _ => ⟨0, 0, 0⟩, fun _ _ => 0⟩
  accountant := ⟨fun _ => .zero, fun _ => ⟨97, 98⟩, fun _ _ => ⟨0, 0, 0⟩⟩
  start := ⟨fun _ => .zero, fun _ => ⟨97, 98⟩, fun _ _ => ⟨0, 0, 0⟩⟩
  forwarded := fun _ _ => 0
  counted := fun _ _ => 0

/-- An IPv4 packet of 100 bytes to the user of the session. -/
def packetToUser : Action := .processipout [(5, 100)] 5 (0x45 :: List.replicate 99 0) 100

def busyRun (zones : Zone → List FreeNetwork) : Run := (quietRun zones).act packetToUser

theorem busyRun_reachable (zones : Zone → List FreeNetwork) :
    Run.system.Reachable (busyRun zones) := by
  have starts : (quietRun zones).Starts :=
    ⟨fun _ _ => rfl, fun _ _ => rfl, rfl, fun _ _ => rfl, fun _ _ => rfl⟩
  exact .step packetToUser (.initial starts) trivial rfl

theorem round_reachable {run : Run} (reached : Run.system.Reachable run) :
    Run.system.Reachable (run.act (.round 0)) := .step (.round 0) reached trivial rfl

theorem round_freeLocal (run : Run) :
    (run.act (.round 0)).forwarder.freeLocal = run.forwarder.freeLocal := rfl

theorem round_slave (run : Run) :
    (run.act (.round 0)).forwarder.slave = run.forwarder.slave.masterUpdateCounts.1 := rfl

theorem round_counted (run : Run) : (run.act (.round 0)).counted = run.counted := rfl

/-- Nothing is left of the session in the other counters of the slave. -/
def Run.Served (run : Run) (s : Nat) : Prop :=
  ∀ d, run.forwarder.slave.sessLocal s d = .zero

def busySlave : Slave := quietSlave.processipout [(5, 100)] 5 100

theorem busySlave_served (d : Direction) :
    busySlave.masterUpdateCounts.1.sessLocal 5 d = .zero := by
  refine masterUpdateCounts_next busySlave (by decide) (by decide) (by decide) ?_ 5 d
  intro s d other
  have kept : busySlave.sessLocal s = quietSlave.sessLocal s := Function.update_of_ne other _ _
  rw [kept]
  rfl

theorem busyRun_served (zones : Zone → List FreeNetwork) :
    ((busyRun zones).act (.round 0)).Served 5 := by
  intro d
  have slave : (busyRun zones).forwarder.slave = busySlave := rfl
  rw [round_slave, slave]
  exact busySlave_served d

/-- The round has taken the other bytes of the session, but not the free ones. -/
theorem free_left_behind : ¬ ∀ run, Run.system.Reachable run → ∀ s, run.Served s →
    ∀ d, run.Delivered s d := by
  intro delivers
  have reached := round_reachable (busyRun_reachable freeZones)
  have remains := (delivers _ reached 5 (busyRun_served freeZones) .outward).remains
  rw [round_freeLocal] at remains
  exact absurd remains (by decide)

/-- Without free networks nothing is left behind. -/
theorem delivered_without_networks :
    ((busyRun fun _ => []).act (.round 0)).Delivered 5 .outward := by
  refine (delivered_iff (round_reachable (busyRun_reachable _)) 5 .outward).mpr ?_
  rw [round_counted]
  decide

end L2tpns.Cluster.FreeTraffic
