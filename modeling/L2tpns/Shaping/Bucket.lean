import L2tpns.Server.Tbf

/-! # One token bucket

What `tbf_queue_packet` and `tbf_run_queue` do to a bucket, apart from its place on the timer
chain: credit is earned in 32-bit arithmetic, packets wait in a ring of two slots, and the
counters go along. The ring is a queue (`L2tpns.Shaping.Bucket.queue_drain`,
`L2tpns.Shaping.Bucket.queue_offer`).
-/

namespace L2tpns.Shaping

open Server.Throttle (Direction tbfMaxQueue tbfMaxSize)

/-- A `tbft` without its place on the timer chain. -/
structure Bucket where
  credit : Int := 0
  /-- It is only subtracted from `TIME`. -/
  lasttime : UInt32 := 0
  queued : Nat := 0
  oldest : Nat := 0
  sid : UInt16 := 0
  maxCredit : Int := 0
  rate : Int := 0
  send : Option Direction := none
  bQueued : UInt32 := 0
  bSent : UInt32 := 0
  pQueued : UInt32 := 0
  pSent : UInt32 := 0
  bDropped : UInt32 := 0
  pDropped : UInt32 := 0
  pDelayed : UInt32 := 0
  sizes : Nat → Nat := fun _ => 0
  packets : Nat → List UInt8 := fun _ => List.replicate tbfMaxSize 0

/-- A bucket as `new_tbf` fills it in. -/
def Bucket.fresh (sid maxCredit rate : Int) (send : Option Direction) : Bucket :=
  { sid := .ofInt sid, credit := maxCredit, maxCredit := maxCredit, rate := rate, send := send }

/-- The arguments of a call of `send`. -/
structure Handed where
  direction : Direction
  sid : UInt16
  data : List UInt8
  size : Nat
deriving DecidableEq, Repr

namespace Bucket

variable (f : Bucket)

/-- Earn credit; the product and the quotient are unsigned. -/
def refill (time : UInt32) : Bucket :=
  let credit := (f.credit + (((time - f.lasttime) * UInt32.ofInt f.rate).toNat / 10 : Nat)).bmod
    (2 ^ 32)
  { f with credit := if f.maxCredit < credit then f.maxCredit else credit, lasttime := time }

def hand (data : List UInt8) (size : Nat) : List Handed :=
  (f.send.map fun direction => ⟨direction, f.sid, data, size⟩).toList

/-- Count bytes that left the bucket. -/
def countSent (size : Nat) : Bucket :=
  if f.send.isSome then { f with bSent := f.bSent + .ofNat size, pSent := f.pSent + 1 }
  else { f with bDropped := f.bDropped + .ofNat size, pDropped := f.pDropped + 1 }

/-- The oldest packet in the ring. -/
def oldestData : List UInt8 := (f.packets f.oldest).take (f.sizes f.oldest)

/-- The oldest packet leaves the ring. -/
def popOldest : Bucket :=
  { f.countSent (f.sizes f.oldest) with
    credit := f.credit - f.sizes f.oldest
    oldest := (f.oldest + 1) % tbfMaxQueue
    queued := f.queued - 1 }

/-- The loop of `tbf_run_queue` with so many packets queued. -/
def drain : Nat → Bucket → Bucket × List Handed
  | 0, f => (f, [])
  | queued + 1, f =>
      if f.sizes f.oldest ≤ f.credit then
        let (left, handed) := drain queued f.popOldest
        (left, f.hand f.oldestData (f.sizes f.oldest) ++ handed)
      else (f, [])

/-- `tbf_run_queue` -/
def run (time : UInt32) : Bucket × List Handed := drain f.queued (f.refill time)

/-- What becomes of a packet. -/
inductive Fate
  | sent
  | queued
  | dropped
deriving DecidableEq, Repr

/-- A packet arrives. -/
def arrive (size : Nat) : Bucket :=
  { f with bQueued := f.bQueued + .ofNat size, pQueued := f.pQueued + 1 }

/-- A packet is dropped. -/
def drop (size : Nat) : Bucket :=
  { f with pDropped := f.pDropped + 1, bDropped := f.bDropped + .ofNat size }

/-- The slot behind the youngest packet. -/
def freeSlot : Nat := (f.oldest + f.queued) % tbfMaxQueue

/-- A packet is copied over what was in its slot. -/
def enqueue (data : List UInt8) : Bucket :=
  { f with
    packets := Function.update f.packets f.freeSlot
      (data ++ (f.packets f.freeSlot).drop data.length)
    sizes := Function.update f.sizes f.freeSlot data.length
    queued := f.queued + 1
    pDelayed := f.pDelayed + 1 }

/-- `tbf_queue_packet` on a bucket that was run. -/
def offer (data : List UInt8) : Bucket × List Handed × Fate :=
  let size := data.length
  let g := f.arrive size
  if g.queued = 0 ∧ size < g.credit then
    ({ g.countSent size with credit := g.credit - size }, g.hand data size, .sent)
  else if tbfMaxQueue ≤ g.queued then (g.drop size, [], .dropped)
  else if tbfMaxSize ≤ size then (g.drop size, [], .dropped)
  else (g.enqueue data, [], .queued)

/-- The packets in the ring, from the oldest on. -/
def queue : List (List UInt8) :=
  (List.range f.queued).map fun k =>
    (f.packets ((f.oldest + k) % tbfMaxQueue)).take (f.sizes ((f.oldest + k) % tbfMaxQueue))

/-- The ring is in order. -/
structure Valid : Prop where
  oldest : f.oldest < tbfMaxQueue
  queued : f.queued ≤ tbfMaxQueue
  sizes : ∀ slot, f.sizes slot < tbfMaxSize
  packets : ∀ slot, (f.packets slot).length = tbfMaxSize

variable {f}

@[simp]
theorem length_queue (f : Bucket) : f.queue.length = f.queued := by simp [queue]

theorem queue_eq_nil : f.queue = [] ↔ f.queued = 0 := by simp [queue]

theorem queue_congr {g : Bucket} (queued : g.queued = f.queued) (oldest : g.oldest = f.oldest)
    (sizes : g.sizes = f.sizes) (packets : g.packets = f.packets) : g.queue = f.queue := by
  rw [queue, queue, queued, oldest, sizes, packets]

theorem Valid.congr {g : Bucket} (valid : f.Valid) (queued : g.queued = f.queued)
    (oldest : g.oldest = f.oldest) (sizes : g.sizes = f.sizes)
    (packets : g.packets = f.packets) : g.Valid :=
  ⟨oldest ▸ valid.oldest, queued ▸ valid.queued, sizes ▸ valid.sizes, packets ▸ valid.packets⟩

theorem valid_fresh (sid maxCredit rate : Int) (send : Option Direction) :
    (fresh sid maxCredit rate send).Valid :=
  ⟨Nat.two_pos, Nat.zero_le _, fun _ => Nat.succ_pos _,
    fun _ => List.length_replicate⟩

/-- What an operation leaves as it is. -/
structure Keeps (f g : Bucket) : Prop where
  sid : g.sid = f.sid
  maxCredit : g.maxCredit = f.maxCredit
  rate : g.rate = f.rate
  send : g.send = f.send

theorem Keeps.refl (f : Bucket) : f.Keeps f := ⟨rfl, rfl, rfl, rfl⟩

theorem Keeps.trans {g h : Bucket} (first : f.Keeps g) (second : g.Keeps h) : f.Keeps h :=
  ⟨second.sid.trans first.sid, second.maxCredit.trans first.maxCredit,
    second.rate.trans first.rate, second.send.trans first.send⟩

@[simp] theorem countSent_queued (size : Nat) : (f.countSent size).queued = f.queued := by
  unfold countSent; split <;> rfl

@[simp] theorem countSent_oldest (size : Nat) : (f.countSent size).oldest = f.oldest := by
  unfold countSent; split <;> rfl

@[simp] theorem countSent_sizes (size : Nat) : (f.countSent size).sizes = f.sizes := by
  unfold countSent; split <;> rfl

@[simp] theorem countSent_packets (size : Nat) : (f.countSent size).packets = f.packets := by
  unfold countSent; split <;> rfl

@[simp] theorem countSent_lasttime (size : Nat) : (f.countSent size).lasttime = f.lasttime := by
  unfold countSent; split <;> rfl

@[simp] theorem countSent_bQueued (size : Nat) : (f.countSent size).bQueued = f.bQueued := by
  unfold countSent; split <;> rfl

theorem countSent_bytes (size : Nat) :
    (f.countSent size).bSent + (f.countSent size).bDropped =
      f.bSent + f.bDropped + .ofNat size := by
  unfold countSent
  split
  · simp only [UInt32.add_assoc, UInt32.add_comm (.ofNat size)]
  · simp only [UInt32.add_assoc]

theorem keeps_countSent (size : Nat) : f.Keeps (f.countSent size) := by
  unfold countSent
  split <;> exact ⟨rfl, rfl, rfl, rfl⟩

theorem keeps_refill (time : UInt32) : f.Keeps (f.refill time) := ⟨rfl, rfl, rfl, rfl⟩

theorem keeps_popOldest : f.Keeps f.popOldest :=
  have kept := @keeps_countSent f (f.sizes f.oldest)
  ⟨kept.sid, kept.maxCredit, kept.rate, kept.send⟩

theorem keeps_drain (queued : Nat) : f.Keeps (drain queued f).1 := by
  induction queued generalizing f with
  | zero => exact .refl f
  | succ queued ih =>
      rw [drain]
      split_ifs
      · exact keeps_popOldest.trans ih
      · exact .refl f

theorem keeps_run (time : UInt32) : f.Keeps (f.run time).1 :=
  (keeps_refill time).trans (keeps_drain f.queued)

theorem keeps_offer (data : List UInt8) : f.Keeps (f.offer data).1 := by
  unfold offer
  have sent := @keeps_countSent (f.arrive data.length) data.length
  dsimp only
  split_ifs
  · exact ⟨sent.sid, sent.maxCredit, sent.rate, sent.send⟩
  all_goals exact ⟨rfl, rfl, rfl, rfl⟩

theorem hand_data (data : List UInt8) (size : Nat) :
    (f.hand data size).map Handed.data = if f.send.isSome then [data] else [] := by
  unfold hand
  cases f.send <;> rfl

/-- **The oldest packet is the first of the queue.** -/
theorem queue_popOldest (valid : f.Valid) {queued : Nat} (eq : f.queued = queued + 1) :
    f.queue = f.oldestData :: f.popOldest.queue := by
  have first : (f.oldest + 0) % tbfMaxQueue = f.oldest := Nat.mod_eq_of_lt valid.oldest
  have behind (k : Nat) : ((f.oldest + 1) % tbfMaxQueue + k) % tbfMaxQueue =
      (f.oldest + (k + 1)) % tbfMaxQueue := by
    rw [Nat.mod_add_mod, Nat.add_assoc, Nat.add_comm 1 k]
  simp only [queue, popOldest, eq, List.range_succ_eq_map, List.map_cons, List.map_map, first,
    countSent_packets, countSent_sizes, Nat.add_sub_cancel, Function.comp_def, Nat.succ_eq_add_one,
    behind, oldestData]

theorem length_oldestData (valid : f.Valid) : f.oldestData.length = f.sizes f.oldest := by
  have small := valid.sizes f.oldest
  rw [oldestData, List.length_take, valid.packets]
  omega

theorem valid_popOldest (valid : f.Valid) : f.popOldest.Valid where
  oldest := Nat.mod_lt _ (by simp [tbfMaxQueue])
  queued := Nat.le_trans (Nat.sub_le _ _) valid.queued
  sizes := by simpa [popOldest] using valid.sizes
  packets := by simpa [popOldest] using valid.packets

theorem valid_refill (valid : f.Valid) (time : UInt32) : (f.refill time).Valid :=
  valid.congr rfl rfl rfl rfl

def bytes (packets : List (List UInt8)) : Nat := (packets.map List.length).sum

@[simp] theorem bytes_nil : bytes [] = 0 := rfl

@[simp] theorem bytes_cons (packet : List UInt8) (packets : List (List UInt8)) :
    bytes (packet :: packets) = packet.length + bytes packets := by simp [bytes]

@[simp] theorem bytes_append (packets more : List (List UInt8)) :
    bytes (packets ++ more) = bytes packets + bytes more := by simp [bytes]

/-- What it means that the first `k` packets of the queue leave a bucket. -/
structure Drains (f : Bucket) (k : Nat) (g : Bucket) (handed : List Handed) : Prop where
  valid : g.Valid
  queue : g.queue = f.queue.drop k
  data : handed.map Handed.data = if f.send.isSome then f.queue.take k else []
  sizes : ∀ packet ∈ handed, packet.size = packet.data.length
  credit : g.credit + bytes (f.queue.take k) = f.credit
  solvent : 0 ≤ f.credit → 0 ≤ g.credit
  lasttime : g.lasttime = f.lasttime
  counted : g.bSent + g.bDropped = f.bSent + f.bDropped + .ofNat (bytes (f.queue.take k))
  bQueued : g.bQueued = f.bQueued
  /-- It stops where the next packet is not paid for. -/
  stops : ∀ packet ∈ g.queue.head?, g.credit < packet.length

theorem hand_sizes {data : List UInt8} {size : Nat} (eq : size = data.length) :
    ∀ packet ∈ f.hand data size, packet.size = packet.data.length := by
  unfold hand
  cases f.send with
  | none => nofun
  | some direction => simp [eq]

/-- **The loop sends from the front of the queue.** -/
theorem drain_spec (valid : f.Valid) {queued : Nat} (eq : f.queued = queued) :
    ∃ k, f.Drains k (drain queued f).1 (drain queued f).2 := by
  induction queued generalizing f with
  | zero =>
      have empty : f.queue = [] := queue_eq_nil.mpr eq
      refine ⟨0, valid, rfl, by simp [drain], nofun, by simp [drain], id, rfl, ?_, rfl, ?_⟩
      · simp [drain]
      · simp [drain, empty]
  | succ queued ih =>
      have split := queue_popOldest valid eq
      have length := length_oldestData valid
      rw [drain]
      split_ifs with paid
      · have left : f.popOldest.queued = queued := by simp [popOldest, eq]
        obtain ⟨k, drains⟩ := ih (valid_popOldest valid) left
        have kept := (@keeps_popOldest f).send
        have count := @countSent_bytes f (f.sizes f.oldest)
        refine ⟨k + 1, drains.valid, ?_, ?_, ?_, ?_, ?_, ?_, ?_, ?_, drains.stops⟩
        · rw [split, List.drop_succ_cons, drains.queue]
        · rw [split, List.take_succ_cons, List.map_append, hand_data, drains.data, kept]
          split_ifs <;> rfl
        · intro packet mem
          rcases List.mem_append.mp mem with own | later
          · exact hand_sizes length.symm packet own
          · exact drains.sizes packet later
        · have credit := drains.credit
          have paying : f.popOldest.credit = f.credit - f.sizes f.oldest := rfl
          rw [split, List.take_succ_cons, bytes_cons, length]
          push_cast
          omega
        · exact fun _ => drains.solvent (by simpa [popOldest] using paid)
        · rw [drains.lasttime, popOldest, countSent_lasttime]
        · rw [split, List.take_succ_cons, bytes_cons, length, UInt32.ofNat_add, ← UInt32.add_assoc,
            ← count]
          exact drains.counted
        · rw [drains.bQueued, popOldest, countSent_bQueued]
      · refine ⟨0, valid, rfl, by simp, nofun, by simp, id, rfl, by simp, rfl,
          fun packet first => ?_⟩
        rw [split] at first
        cases first
        rw [length]
        exact Int.not_le.mp paid

theorem run_spec (valid : f.Valid) (time : UInt32) :
    ∃ k, (f.refill time).Drains k (f.run time).1 (f.run time).2 :=
  drain_spec (valid_refill valid time) rfl

theorem freeSlot_ne (room : f.queued < tbfMaxQueue) {k : Nat} (used : k < f.queued) :
    (f.oldest + k) % tbfMaxQueue ≠ f.freeSlot := by
  unfold freeSlot
  unfold tbfMaxQueue at *
  omega

/-- **A packet that is enqueued is the last of the queue.** -/
theorem queue_enqueue (room : f.queued < tbfMaxQueue) (data : List UInt8) :
    (f.enqueue data).queue = f.queue ++ [data] := by
  have last : (f.oldest + f.queued) % tbfMaxQueue = f.freeSlot := rfl
  simp only [queue, enqueue, List.range_succ, List.map_append, List.map_singleton, last,
    Function.update_self, List.take_left]
  congr 1
  refine List.map_congr_left fun k used => ?_
  have other := freeSlot_ne room (List.mem_range.mp used)
  rw [Function.update_of_ne other, Function.update_of_ne other]

theorem valid_enqueue (valid : f.Valid) (room : f.queued < tbfMaxQueue) {data : List UInt8}
    (small : data.length < tbfMaxSize) : (f.enqueue data).Valid where
  oldest := valid.oldest
  queued := room
  sizes slot := by
    by_cases own : slot = f.freeSlot
    · simpa [enqueue, own] using small
    · simpa [enqueue, own] using valid.sizes slot
  packets slot := by
    by_cases own : slot = f.freeSlot
    · have whole := valid.packets f.freeSlot
      simp only [enqueue, own, Function.update_self, List.length_append, List.length_drop, whole]
      omega
    · simpa [enqueue, own] using valid.packets slot

/-- What becomes of a packet that is offered to a bucket. -/
structure Takes (f : Bucket) (data : List UInt8) (g : Bucket) (handed : List Handed)
    (fate : Fate) : Prop where
  valid : g.Valid
  lasttime : g.lasttime = f.lasttime
  bQueued : g.bQueued = f.bQueued + .ofNat data.length
  sent : fate = .sent → f.queue = [] ∧ g.queue = [] ∧ (data.length : Int) < f.credit ∧
    g.credit = f.credit - data.length ∧
    handed = f.hand data data.length ∧
    g.bSent + g.bDropped = f.bSent + f.bDropped + .ofNat data.length
  queued : fate = .queued → g.queue = f.queue ++ [data] ∧ data.length < tbfMaxSize ∧
    g.credit = f.credit ∧ handed = [] ∧ g.bSent + g.bDropped = f.bSent + f.bDropped
  dropped : fate = .dropped → g.queue = f.queue ∧ g.credit = f.credit ∧ handed = [] ∧
    g.bSent + g.bDropped = f.bSent + f.bDropped + .ofNat data.length

/-- **A packet is sent, queued or dropped.** -/
theorem offer_spec (valid : f.Valid) (data : List UInt8) :
    f.Takes data (f.offer data).1 (f.offer data).2.1 (f.offer data).2.2 := by
  have arrived : (f.arrive data.length).Valid := valid.congr rfl rfl rfl rfl
  have same : (f.arrive data.length).queue = f.queue := queue_congr rfl rfl rfl rfl
  unfold offer
  dsimp only
  split_ifs with direct full large
  · have counted : ((f.arrive data.length).countSent data.length).queue = f.queue :=
      (queue_congr (by simp) (by simp) (by simp) (by simp)).trans same
    have empty : f.queue = [] := queue_eq_nil.mpr direct.1
    refine ⟨arrived.congr (by simp) (by simp) (by simp) (by simp), ?_, ?_, fun _ => ?_, nofun,
      nofun⟩
    · simp [arrive]
    · simp [arrive]
    · refine ⟨empty, ?_, direct.2, rfl, rfl, ?_⟩
      · exact (queue_congr rfl rfl rfl rfl).trans (counted.trans empty)
      · exact countSent_bytes data.length
  · refine ⟨arrived.congr rfl rfl rfl rfl, rfl, rfl, nofun, nofun, fun _ => ?_⟩
    exact ⟨(queue_congr rfl rfl rfl rfl).trans same, rfl, rfl, (UInt32.add_assoc _ _ _).symm⟩
  · refine ⟨arrived.congr rfl rfl rfl rfl, rfl, rfl, nofun, nofun, fun _ => ?_⟩
    exact ⟨(queue_congr rfl rfl rfl rfl).trans same, rfl, rfl, (UInt32.add_assoc _ _ _).symm⟩
  · have room := Nat.lt_of_not_le full
    have small := Nat.lt_of_not_le large
    refine ⟨valid_enqueue arrived room small, rfl, rfl, nofun, fun _ => ?_, nofun⟩
    exact ⟨by rw [queue_enqueue room, same], small, rfl, rfl, rfl⟩

end Bucket

end L2tpns.Shaping
