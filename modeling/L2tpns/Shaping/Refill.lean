import L2tpns.Shaping.Scheduler
import L2tpns.Shaping.Rate

/-! # What a bucket earns when it is idle

After an idle time a bucket has what it earned, unless the 32-bit product wrapped and the rest does
not fill it; and its queue empties, unless a packet in it is larger than a burst
(`L2tpns.Shaping.refill_leave_iff`).
-/

namespace L2tpns.Shaping

open Server.Throttle (Direction)

/-- Buckets are allocated by `throttle_session` only. -/
def Call.Throttles : Call → Prop
  | .newTbf _ maxCredit rate send => ∃ (kbit : Nat) (direction : Direction),
      1 ≤ kbit ∧ kbit ≤ 65535 ∧ maxCredit = throttleBytes kbit * 2 ∧ rate = throttleBytes kbit ∧
        send = some direction
  | _ => True

/-- The calls of a server that throttles sessions. -/
def Throttling (h : History) (call : Call) : Prop :=
  call.InRange h.st.filterListSize ∧ call.Throttles

/-- A bucket is free or has the rate of a throttled session. -/
def Filters.AllPaced (st : Filters) : Prop :=
  ∀ id, 1 ≤ id → (st.filterList id).sid ≠ 0 →
    ∃ kbit, 1 ≤ kbit ∧ kbit ≤ 65535 ∧ (st.filterList id).Paced kbit

namespace Bucket

variable {f g : Bucket} {kbit : Nat}

theorem refill_bounds (paced : f.Paced kbit) (small : kbit ≤ 65535) (time : UInt32) :
    f.credit ≤ (f.refill time).credit ∧ (f.refill time).credit ≤ 256 * kbit := by
  have earned := refill_credit paced small time
  have full := paced.full
  have max := paced.maxCredit
  omega

theorem paced_refill (paced : f.Paced kbit) (small : kbit ≤ 65535) (time : UInt32) :
    (f.refill time).Paced kbit :=
  have ⟨more, full⟩ := refill_bounds paced small time
  ⟨paced.rate, paced.maxCredit, paced.helper, valid_refill paced.valid time,
    paced.solvent.trans more, full⟩

theorem paced_drains (paced : f.Paced kbit) {k : Nat} {handed : List Handed}
    (drains : f.Drains k g handed) (keeps : f.Keeps g) : g.Paced kbit := by
  have credit := drains.credit
  have full := paced.full
  exact ⟨keeps.rate.trans paced.rate, keeps.maxCredit.trans paced.maxCredit,
    keeps.send ▸ paced.helper, drains.valid, drains.solvent paced.solvent, by omega⟩

theorem paced_run (paced : f.Paced kbit) (small : kbit ≤ 65535) (time : UInt32) :
    (f.run time).1.Paced kbit := by
  obtain ⟨k, drains⟩ := run_spec paced.valid time
  have keeps := @keeps_run f time
  exact paced_drains (paced_refill paced small time) drains
    ⟨keeps.sid, keeps.maxCredit, keeps.rate, keeps.send⟩

theorem paced_offer (paced : f.Paced kbit) (data : List UInt8) : (f.offer data).1.Paced kbit := by
  have takes := offer_spec paced.valid data
  have keeps := @keeps_offer f data
  have solvent := paced.solvent
  have full := paced.full
  refine ⟨keeps.rate.trans paced.rate, keeps.maxCredit.trans paced.maxCredit,
    keeps.send ▸ paced.helper, takes.valid, ?_, ?_⟩
  all_goals
    cases fate : (f.offer data).2.2 with
    | sent =>
        obtain ⟨-, -, enough, credit, -⟩ := takes.sent fate
        omega
    | queued =>
        obtain ⟨-, -, credit, -⟩ := takes.queued fate
        omega
    | dropped =>
        obtain ⟨-, credit, -⟩ := takes.dropped fate
        omega

end Bucket

namespace Filters

variable {st st' : Filters}

theorem AllPaced.runs (all : st.AllPaced) {ids : List Nat} {departures : List Departure}
    (runs : st.Runs ids departures st') : st'.AllPaced := by
  intro id real used
  have bucket := runs.bucket id
  rw [bucket] at used ⊢
  split_ifs at used ⊢
  · have keeps := @Bucket.keeps_run (st.filterList id).toBucket st.time
    obtain ⟨kbit, low, high, paced⟩ := all id real (keeps.sid ▸ used)
    exact ⟨kbit, low, high, Bucket.paced_run paced high st.time⟩
  · exact all id real used

theorem AllPaced.tbfQueuePacket (all : st.AllPaced) (id : Nat) (data : List UInt8) :
    (st.tbfQueuePacket id data).1.AllPaced := by
  by_cases outside : st.filterListSize < id ∨ id < 1
  · unfold Filters.tbfQueuePacket
    rwa [if_pos outside]
  by_cases free : (st.filterList id).sid = 0
  · unfold Filters.tbfQueuePacket
    rwa [if_neg outside, if_pos free]
  have ran := all.runs (@runs_one st id)
  intro i real used
  have bucket := @tbfQueuePacket_bucket st id data outside free i
  rw [bucket] at used ⊢
  split_ifs at used ⊢ with own
  · have keeps := @Bucket.keeps_offer ((st.tbfRunQueue id).1.filterList id).toBucket data
    obtain ⟨kbit, low, high, paced⟩ := ran id (own ▸ real) (keeps.sid ▸ used)
    exact ⟨kbit, low, high, Bucket.paced_offer paced data⟩
  · exact ran i real used

end Filters

/-- What every run of a throttling server keeps. -/
theorem History.step_paced {h : History} {call : Call} {ids : List Nat}
    (ordered : h.st.Ordered ids) (all : h.st.AllPaced) (throttling : Throttling h call) :
    (h.step call).st.AllPaced := by
  cases call with
  | newTbf sid maxCredit rate send =>
      obtain ⟨-, kbit, direction, low, high, rfl, rfl, rfl⟩ := throttling
      obtain ⟨-, ⟨-, same⟩ | ⟨-, bucket⟩⟩ := ordered.newTbf sid (throttleBytes kbit * 2)
        (throttleBytes kbit) (some direction)
      · intro id real used
        simp only [History.step, same] at used ⊢
        exact all id real used
      · intro id real used
        simp only [History.step] at used ⊢
        rw [bucket] at used ⊢
        split_ifs at used ⊢
        · exact ⟨kbit, low, high, Bucket.paced_fresh kbit sid direction⟩
        · exact all id real used
  | freeTbf tid =>
      intro id real used
      simp only [History.step] at used ⊢
      rw [Filters.freeTbf_bucket throttling.1.1] at used ⊢
      split_ifs at used ⊢
      · exact absurd rfl used
      · exact all id real used
  | tbfQueuePacket id data => exact all.tbfQueuePacket id data
  | tbfRunTimer =>
      obtain ⟨-, runs, -⟩ := Filters.tbfRunTimer_spec ordered
      exact all.runs runs
  | time time => exact all

/-- The table is in order and its buckets have rates. -/
def History.Sound (h : History) : Prop :=
  (∃ ids, h.st.Ordered ids ∧ h.st.Flows h.accepted h.sent) ∧ h.st.AllPaced

theorem run_sound {h : History} (run : system.ReachableUnder Throttling h) : h.Sound := by
  refine run.invariant ?_ ?_
  · intro h start
    refine ⟨run_inv (.initial start), ?_⟩
    obtain ⟨numTbfs, time, -, rfl⟩ := start
    intro id real used
    refine absurd ?_ used
    simp only [Filters.initTbf, Function.update_of_ne (Nat.one_le_iff_ne_zero.mp real)]
  · intro h call next sound throttling step
    obtain ⟨ids, ordered, -⟩ := sound.1
    subst step
    exact ⟨h.step_inv sound.1 throttling.1, h.step_paced ordered sound.2 throttling⟩

/-- What a bucket earns in an idle time is kept by the 32-bit product, or what is kept of it fills
the bucket. -/
def Bucket.Keeps32 (f : Bucket) (idle : Nat) : Prop :=
  (idle : Int) * f.rate < 2 ^ 32 ∨ f.maxCredit ≤ f.credit + idle * f.rate % 2 ^ 32 / 10

/-- **A refill is exact** where the product does not wrap, or the bucket is filled all the same. -/
theorem Bucket.refill_exact_iff {f : Bucket} {kbit : Nat} (paced : f.Paced kbit)
    (small : kbit ≤ 65535) {idle : Nat} (range : idle < 2 ^ 32) :
    (f.refill (f.lasttime + .ofNat idle)).credit =
        min f.maxCredit (f.credit + idle * f.rate / 10) ↔ f.Keeps32 idle := by
  have earned := refill_credit paced small (f.lasttime + .ofNat idle)
  have span : (f.lasttime + UInt32.ofNat idle - f.lasttime).toNat = idle := by
    rw [UInt32.add_comm, UInt32.add_sub_cancel, UInt32.toNat_ofNat_of_lt' range]
  have full := paced.full
  have product : (idle : Int) * f.rate = (idle * (128 * kbit) : Nat) := by
    rw [paced.rate]
    push_cast
    ring
  unfold Keeps32
  rw [earned, span, product, paced.maxCredit]
  generalize idle * (128 * kbit) = total
  omega

namespace Filters

/-- Time goes on by a tick, and the timer runs. -/
def tick (st : Filters) : Filters × List Departure :=
  let next := { st with time := st.time + 1 }
  (next.tbfRunTimer.1, next.tbfRunTimer.2.1)

/-- So many ticks without a packet. -/
def idle : Nat → Filters → Filters × List Departure
  | 0, st => (st, [])
  | ticks + 1, st =>
      let (next, departures) := st.tick
      let (done, more) := idle ticks next
      (done, departures ++ more)

/-- The packets in a bucket are sent after finitely many idle ticks. -/
def Leaves (st : Filters) (id : Nat) : Prop :=
  ∃ ticks, packetsOf id (st.idle ticks).2 = (st.filterList id).queue

/-- The table is in order, with a bucket in use. -/
structure InUse (st : Filters) (id : Nat) : Prop where
  ordered : ∃ ids, st.Ordered ids
  all : st.AllPaced
  real : 1 ≤ id ∧ id < st.filterListSize
  used : (st.filterList id).sid ≠ 0

variable {st : Filters} {id : Nat}

/-- **A tick runs a bucket that has packets**, and leaves another alone. -/
theorem tick_spec (inUse : st.InUse id) :
    st.tick.1.InUse id ∧ st.tick.1.time = st.time + 1 ∧
      if (st.filterList id).queue = [] then
        (st.tick.1.filterList id).toBucket = (st.filterList id).toBucket ∧
          packetsOf id st.tick.2 = []
      else
        (st.tick.1.filterList id).toBucket = ((st.filterList id).run (st.time + 1)).1 ∧
          packetsOf id st.tick.2 = ((st.filterList id).run (st.time + 1)).2.map Handed.data := by
  obtain ⟨ids, ordered⟩ := inUse.ordered
  have later : Filters.Ordered { st with time := st.time + 1 } ids :=
    ⟨ordered.toChained.congr (fun _ => rfl) (fun _ => rfl) rfl rfl, ordered.busy, ordered.valid,
      ordered.reserved, ordered.place⟩
  have allLater : AllPaced { st with time := st.time + 1 } := inUse.all
  obtain ⟨order, runs, -⟩ := tbfRunTimer_spec later
  have bucket := runs.bucket id
  have packets := runs.packets id
  have busy := ordered.busy id inUse.real.1 inUse.real.2
  have sid : (st.tick.1.filterList id).sid = (st.filterList id).sid := by
    have keeps := @Bucket.keeps_run (st.filterList id).toBucket (st.time + 1)
    have same : (st.tick.1.filterList id).toBucket = _ := bucket
    rw [same]
    split_ifs
    · exact keeps.sid
    · rfl
  refine ⟨⟨order, allLater.runs runs, runs.size.symm ▸ inUse.real, sid ▸ inUse.used⟩, runs.time, ?_⟩
  split_ifs with empty
  · have off : id ∉ ids := fun mem => (busy.mp mem).2 (Bucket.queue_eq_nil.mp empty)
    rw [if_neg off] at bucket packets
    exact ⟨bucket, packets⟩
  · have on : id ∈ ids := busy.mpr ⟨inUse.used, fun none => empty (Bucket.queue_eq_nil.mpr none)⟩
    rw [if_pos on] at bucket packets
    exact ⟨bucket, packets⟩

end Filters

namespace Bucket

variable {f : Bucket} {kbit : Nat}

theorem bytes_le {packets : List (List UInt8)} {burst : Nat}
    (fits : ∀ packet ∈ packets, packet.length ≤ burst) :
    bytes packets ≤ packets.length * burst := by
  induction packets with
  | nil => exact Nat.zero_le _
  | cons packet packets ih =>
      have first := fits packet (by simp)
      have rest := ih fun other mem => fits other (by simp [mem])
      rw [bytes_cons, List.length_cons, Nat.succ_mul]
      omega

theorem length_le_bytes {packets : List (List UInt8)} {packet : List UInt8}
    (mem : packet ∈ packets) : packet.length ≤ bytes packets := by
  obtain ⟨before, after, rfl⟩ := List.append_of_mem mem
  rw [bytes_append, bytes_cons]
  omega

theorem sent_fits (paced : f.Paced kbit) (small : kbit ≤ 65535) (time : UInt32) :
    ∀ packet ∈ (f.run time).2.map Handed.data, packet.length ≤ 256 * kbit := by
  obtain ⟨k, drains⟩ := run_spec paced.valid time
  have again := paced_refill paced small time
  intro packet mem
  rw [drains.data, if_pos (Option.isSome_iff_ne_none.mpr again.helper)] at mem
  have within := length_le_bytes mem
  have credit := drains.credit
  have solvent := drains.solvent again.solvent
  have full := again.full
  omega

/-- How far a bucket is from being empty: packets first, then credit. -/
def distance (kbit : Nat) (f : Bucket) : Nat :=
  f.queued * (256 * kbit + 1) + (256 * kbit - f.credit).toNat

/-- **A tick brings a bucket closer to being empty.** -/
theorem run_closer (paced : f.Paced kbit) (low : 1 ≤ kbit) (small : kbit ≤ 65535)
    (some : f.queue ≠ []) (fits : ∀ packet ∈ f.queue, packet.length ≤ 256 * kbit) :
    distance kbit (f.run (f.lasttime + 1)).1 < distance kbit f := by
  obtain ⟨k, drains⟩ := run_spec paced.valid (f.lasttime + 1)
  have earned := refill_credit paced small (f.lasttime + 1)
  have span : (f.lasttime + 1 - f.lasttime).toNat = 1 := by
    rw [UInt32.add_comm, UInt32.add_sub_cancel]
    rfl
  have tenth : 1 * (128 * kbit) % 2 ^ 32 / 10 = 128 * kbit / 10 := by omega
  rw [span, paced.maxCredit, tenth] at earned
  have solvent := paced.solvent
  have full := paced.full
  have left := drains.solvent (paced_refill paced small _).solvent
  have credit := drains.credit
  have stops := drains.stops
  have queue : (f.run (f.lasttime + 1)).1.queue = f.queue.drop k := drains.queue
  have taken : (f.refill (f.lasttime + 1)).queue.take k = f.queue.take k := rfl
  rw [taken] at credit
  have queued : (f.run (f.lasttime + 1)).1.queued = f.queued - k := by
    rw [← length_queue, queue, List.length_drop, length_queue]
  generalize (f.run (f.lasttime + 1)).1 = g at *
  unfold distance
  cases k with
  | zero =>
      -- the first packet is not paid for, so the bucket was not filled
      obtain ⟨packet, rest, eq⟩ := List.exists_cons_of_ne_nil some
      rw [List.drop_zero] at queue
      have short := stops packet (by rw [queue, eq]; rfl)
      have fit := fits packet (by simp [eq])
      rw [List.take_zero, bytes_nil] at credit
      rw [queued, Nat.sub_zero]
      omega
  | succ k =>
      have positive : f.queued ≠ 0 := fun none => some (queue_eq_nil.mpr none)
      have paid : bytes (f.queue.take (k + 1)) ≤ (f.queue.take (k + 1)).length * (256 * kbit) :=
        bytes_le fun packet mem => fits packet (List.mem_of_mem_take mem)
      rw [List.length_take, length_queue] at paid
      obtain ⟨out, eq⟩ : ∃ out, min (k + 1) f.queued = out := ⟨_, rfl⟩
      have less : g.queued + out = f.queued := by omega
      have one : 1 ≤ out := by omega
      rw [eq] at paid
      rw [← less, Nat.add_mul, Nat.mul_add out, Nat.mul_one]
      omega

end Bucket

namespace Filters

variable {st : Filters} {id : Nat}

theorem InUse.paced (inUse : st.InUse id) :
    ∃ kbit, 1 ≤ kbit ∧ kbit ≤ 65535 ∧ (st.filterList id).Paced kbit :=
  inUse.all id inUse.real.1 inUse.used

/-- What a tick does to a bucket with a rate: it sends from the front of the queue, and comes
closer to being empty if it was run at the tick before. -/
structure Ticks (kbit : Nat) (id : Nat) (st : Filters) : Prop where
  inUse : st.tick.1.InUse id
  paced : (st.tick.1.filterList id).Paced kbit
  queue : (st.filterList id).queue = packetsOf id st.tick.2 ++ (st.tick.1.filterList id).queue
  fits : ∀ packet ∈ packetsOf id st.tick.2, packet.length ≤ 256 * kbit
  now : (st.filterList id).queue ≠ [] → (st.tick.1.filterList id).lasttime = st.tick.1.time
  closer : (st.filterList id).queue ≠ [] → (st.filterList id).lasttime = st.time →
    (∀ packet ∈ (st.filterList id).queue, packet.length ≤ 256 * kbit) →
      (st.tick.1.filterList id).distance kbit < (st.filterList id).distance kbit

theorem ticks (inUse : st.InUse id) {kbit : Nat} (low : 1 ≤ kbit) (small : kbit ≤ 65535)
    (paced : (st.filterList id).Paced kbit) : st.Ticks kbit id := by
  obtain ⟨later, time, what⟩ := tick_spec inUse
  by_cases empty : (st.filterList id).queue = []
  · rw [if_pos empty] at what
    obtain ⟨bucket, packets⟩ := what
    refine ⟨later, bucket ▸ paced, ?_, ?_, absurd empty, absurd empty⟩
    · rw [packets, bucket, List.nil_append]
    · rw [packets]
      exact nofun
  · rw [if_neg empty] at what
    obtain ⟨bucket, packets⟩ := what
    obtain ⟨k, drains⟩ := Bucket.run_spec paced.valid (st.time + 1)
    have helper := (Bucket.paced_refill paced small (st.time + 1)).helper
    refine ⟨later, ?_, ?_, ?_, fun _ => ?_, fun _ now fits => ?_⟩
    · exact bucket ▸ Bucket.paced_run paced small _
    · rw [packets, bucket, drains.data, if_pos (Option.isSome_iff_ne_none.mpr helper), drains.queue]
      exact (List.take_append_drop k _).symm
    · rw [packets]
      exact Bucket.sent_fits paced small _
    · rw [bucket, time]
      exact drains.lasttime
    · rw [bucket, ← now]
      exact Bucket.run_closer paced low small empty fits

variable {kbit : Nat}

theorem idle_fits (low : 1 ≤ kbit) (small : kbit ≤ 65535) (inUse : st.InUse id)
    (paced : (st.filterList id).Paced kbit) (count : Nat) :
    ∀ packet ∈ packetsOf id (st.idle count).2, packet.length ≤ 256 * kbit := by
  induction count generalizing st with
  | zero => exact nofun
  | succ count ih =>
      have once := ticks inUse low small paced
      intro packet mem
      simp only [idle, packetsOf_append] at mem
      rcases List.mem_append.mp mem with first | rest
      · exact once.fits packet first
      · exact ih once.inUse once.paced packet rest

theorem leaves_tick (once : st.Ticks kbit id) (rest : st.tick.1.Leaves id) : st.Leaves id := by
  obtain ⟨count, sent⟩ := rest
  refine ⟨count + 1, ?_⟩
  simp only [idle, packetsOf_append]
  rw [sent, ← once.queue]

theorem leaves_of_fits (low : 1 ≤ kbit) (small : kbit ≤ 65535) {n : Nat} (inUse : st.InUse id)
    (paced : (st.filterList id).Paced kbit) (now : (st.filterList id).lasttime = st.time)
    (near : (st.filterList id).distance kbit < n)
    (fits : ∀ packet ∈ (st.filterList id).queue, packet.length ≤ 256 * kbit) : st.Leaves id := by
  induction n generalizing st with
  | zero => exact absurd near (Nat.not_lt_zero _)
  | succ n ih =>
      by_cases empty : (st.filterList id).queue = []
      · exact ⟨0, empty.symm⟩
      · have once := ticks inUse low small paced
        have closer := once.closer empty now fits
        refine leaves_tick once (ih once.inUse once.paced (once.now empty) (by omega) ?_)
        intro packet mem
        exact fits packet (once.queue ▸ List.mem_append_right _ mem)

/-- **A queue empties when nobody adds to it** exactly if its packets fit in a burst. -/
theorem leaves_iff (inUse : st.InUse id) : st.Leaves id ↔
    ∀ packet ∈ (st.filterList id).queue, (packet.length : Int) ≤ (st.filterList id).maxCredit := by
  obtain ⟨kbit, low, small, paced⟩ := inUse.paced
  have burst (packet : List UInt8) : (packet.length : Int) ≤ (st.filterList id).maxCredit ↔
      packet.length ≤ 256 * kbit := by
    rw [paced.maxCredit]
    omega
  simp only [burst]
  constructor
  · rintro ⟨count, sent⟩
    rw [← sent]
    exact idle_fits low small inUse paced count
  · intro fits
    by_cases empty : (st.filterList id).queue = []
    · exact ⟨0, empty.symm⟩
    · have once := ticks inUse low small paced
      refine leaves_tick once (leaves_of_fits low small once.inUse once.paced (once.now empty)
        (Nat.lt_succ_self _) ?_)
      intro packet mem
      exact fits packet (once.queue ▸ List.mem_append_right _ mem)

end Filters

theorem inUse_of_run {h : History} (run : system.ReachableUnder Throttling h) {id : Nat}
    (real : 1 ≤ id ∧ id < h.st.filterListSize) (used : (h.st.filterList id).sid ≠ 0) :
    h.st.InUse id := by
  obtain ⟨⟨ids, ordered, -⟩, all⟩ := run_sound run
  exact ⟨⟨ids, ordered⟩, all, real, used⟩

/-- **Refilling and emptying.** In every run, an idle time is credited exactly and the queue empties
in finitely many idle ticks, precisely when the 32-bit product keeps the credit and the packets
fit in a burst. -/
theorem refill_leave_iff {h : History} (run : system.ReachableUnder Throttling h) {id : Nat}
    (real : 1 ≤ id ∧ id < h.st.filterListSize) (used : (h.st.filterList id).sid ≠ 0) {idle : Nat}
    (range : idle < 2 ^ 32) :
    (((h.st.filterList id).refill ((h.st.filterList id).lasttime + .ofNat idle)).credit =
          min (h.st.filterList id).maxCredit
            ((h.st.filterList id).credit + idle * (h.st.filterList id).rate / 10) ∧
        h.st.Leaves id) ↔
      (h.st.filterList id).Keeps32 idle ∧
        ∀ packet ∈ (h.st.filterList id).queue,
          (packet.length : Int) ≤ (h.st.filterList id).maxCredit := by
  have inUse := inUse_of_run run real used
  obtain ⟨kbit, -, small, paced⟩ := inUse.paced
  exact and_congr (Bucket.refill_exact_iff paced small range) (Filters.leaves_iff inUse)

/-- A session is throttled to 1 kbit/s and sends a packet of 100 bytes. -/
def throttledOnce : History :=
  ((⟨.initTbf 3 0, fun _ => [], fun _ => []⟩ : History).step
    (.newTbf 5 (throttleBytes 1 * 2) (throttleBytes 1) (some .inward))).step
    (.tbfQueuePacket 1 (List.replicate 100 0))

/-- A packet of 300 bytes follows, which is more than a burst. -/
def throttledTwice : History := throttledOnce.step (.tbfQueuePacket 1 (List.replicate 300 0))

theorem throttledOnce_reached : system.ReachableUnder Throttling throttledOnce :=
  .step (.tbfQueuePacket 1 (List.replicate 100 0))
    (.step (.newTbf 5 (throttleBytes 1 * 2) (throttleBytes 1) (some .inward))
      (.initial ⟨3, 0, by decide, rfl⟩)
      ⟨trivial, 1, .inward, by decide, by decide, rfl, rfl, rfl⟩ rfl)
    ⟨⟨by decide, by decide⟩, trivial⟩ rfl

theorem throttledTwice_reached : system.ReachableUnder Throttling throttledTwice :=
  .step (.tbfQueuePacket 1 (List.replicate 300 0)) throttledOnce_reached
    ⟨⟨by decide, by decide⟩, trivial⟩ rfl

theorem throttledOnce_refills :
    (((throttledOnce.st.filterList 1).refill
            ((throttledOnce.st.filterList 1).lasttime + .ofNat 5)).credit =
          min (throttledOnce.st.filterList 1).maxCredit
            ((throttledOnce.st.filterList 1).credit +
              (5 : Nat) * (throttledOnce.st.filterList 1).rate / 10) ∧
        throttledOnce.st.Leaves 1) ↔
      (throttledOnce.st.filterList 1).Keeps32 5 ∧
        ∀ packet ∈ (throttledOnce.st.filterList 1).queue,
          (packet.length : Int) ≤ (throttledOnce.st.filterList 1).maxCredit :=
  refill_leave_iff throttledOnce_reached ⟨by decide, by decide⟩ (by decide)
    (by decide)

/-- After 2 ^ 25 ticks nothing was earned, and the packet of 300 bytes never leaves. -/
theorem throttledTwice_blocked :
    system.ReachableUnder Throttling throttledTwice ∧
      (throttledTwice.st.filterList 1).sid ≠ 0 ∧
      (throttledTwice.st.filterList 1).credit = 156 ∧
      (throttledTwice.st.filterList 1).maxCredit = 256 ∧
      ((throttledTwice.st.filterList 1).refill
          ((throttledTwice.st.filterList 1).lasttime + .ofNat (2 ^ 25))).credit ≠
        min (throttledTwice.st.filterList 1).maxCredit
          ((throttledTwice.st.filterList 1).credit +
            (2 ^ 25 : Nat) * (throttledTwice.st.filterList 1).rate / 10) ∧
      (throttledTwice.st.filterList 1).queue = [List.replicate 300 0] ∧
      ¬ throttledTwice.st.Leaves 1 := by
  have used : (throttledTwice.st.filterList 1).sid ≠ 0 := by decide +kernel
  have max : (throttledTwice.st.filterList 1).maxCredit = 256 := by decide +kernel
  have queue : (throttledTwice.st.filterList 1).queue = [List.replicate 300 0] := by decide +kernel
  have inUse := inUse_of_run throttledTwice_reached ⟨by decide, by decide +kernel⟩ used
  refine ⟨throttledTwice_reached, used, by decide +kernel, max, by decide +kernel, queue,
    fun leaves => ?_⟩
  have fits := (Filters.leaves_iff inUse).mp leaves (List.replicate 300 0)
    (by rw [queue]; exact List.mem_singleton_self _)
  rw [max, List.length_replicate] at fits
  exact absurd fits (by decide)

end L2tpns.Shaping
