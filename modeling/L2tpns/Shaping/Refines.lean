import L2tpns.Shaping.Scheduler

/-! # The table as queues

The table of token buckets keeps packets in rings of two slots and the timer chain in links. Seen
from outside it is a table of buckets with lists of packets, and a list of ids: each call leads to
what it leads to there, and sends the same packets (`L2tpns.Shaping.Filters.afterAll_refines`).
-/

namespace L2tpns.Shaping

open Server.Throttle (Direction Packet Sent Tbf Tbfs tbfMaxQueue tbfMaxSize)
open Server.Throttle.Tbfs (sendQueued)

def asPacket (data : List UInt8) : Packet (List UInt8) := ⟨data.length, data⟩

def Handed.toSent (handed : Handed) : Sent (List UInt8) :=
  ⟨handed.sid.toNat, handed.direction, handed.data⟩

namespace Bucket

variable {f : Bucket}

/-- A bucket without its counters, with its ring as a list. -/
def toTbf (f : Bucket) : Tbf (List UInt8) where
  sid := f.sid.toNat
  credit := f.credit
  lasttime := f.lasttime.toNat
  maxCredit := f.maxCredit
  rate := f.rate
  send := f.send
  queue := f.queue.map asPacket

/-- What a helper is handed, as a list of at most one packet. -/
def sends (tbf : Tbf (List UInt8)) (data : List UInt8) : List (Sent (List UInt8)) :=
  (tbf.send.map fun direction => ⟨tbf.sid, direction, data⟩).toList

theorem hand_toSent (data : List UInt8) (size : Nat) :
    (f.hand data size).map Handed.toSent = sends f.toTbf data := by
  rw [hand, sends, toTbf]
  cases f.send <;> rfl

/-- The unsigned product is the product modulo 2^32. -/
theorem earned_eq (rate : Int) (time lasttime : UInt32) :
    (((time - lasttime) * UInt32.ofInt rate).toNat : Int) =
      ((time.toNat : Int) - lasttime.toNat) * rate % 2 ^ 32 := by
  have last := lasttime.toNat_lt
  have difference : ((time - lasttime).toNat : Int) =
      ((time.toNat : Int) - lasttime.toNat) % 2 ^ 32 := by
    rw [UInt32.toNat_sub]
    omega
  have factor : ((UInt32.ofInt rate).toNat : Int) = rate % 2 ^ 32 := by
    rw [UInt32.ofInt, UInt32.toNat_ofNat']
    omega
  rw [UInt32.toNat_mul, Int.natCast_emod, Int.natCast_mul, difference, factor]
  exact (Int.mul_emod _ _ _).symm

theorem refill_toTbf (time : UInt32) :
    (f.refill time).toTbf =
      { f.toTbf with credit := f.toTbf.available time.toNat, lasttime := time.toNat } := by
  have earned : (((((time - f.lasttime) * UInt32.ofInt f.rate).toNat / 10 : Nat)) : Int) =
      ((time.toNat : Int) - f.lasttime.toNat) * f.rate % 2 ^ 32 / 10 := by
    rw [← earned_eq]
    rfl
  simp only [toTbf, Tbf.available, refill, earned]
  congr 1
  rw [Int.min_def]
  split_ifs <;> omega

theorem popOldest_toTbf (valid : f.Valid) {queued : Nat} (eq : f.queued = queued + 1) :
    f.toTbf.queue = asPacket f.oldestData :: f.popOldest.toTbf.queue ∧
      f.popOldest.toTbf = { f.toTbf with
        credit := f.credit - f.sizes f.oldest
        queue := f.popOldest.toTbf.queue } := by
  have kept := @keeps_popOldest f
  refine ⟨?_, ?_⟩
  · simp only [toTbf, queue_popOldest valid eq, List.map_cons]
  · simp only [toTbf, kept.sid, kept.maxCredit, kept.rate, kept.send]
    simp only [popOldest, countSent_lasttime]

/-- The loop over the ring sends what the loop over the list sends. -/
theorem drain_toTbf (valid : f.Valid) {queued : Nat} (eq : f.queued = queued) :
    (drain queued f).1.toTbf = { f.toTbf with
        credit := (sendQueued f.toTbf.sid f.toTbf.send f.credit f.toTbf.queue).1
        queue := (sendQueued f.toTbf.sid f.toTbf.send f.credit f.toTbf.queue).2.1 } ∧
      (drain queued f).2.map Handed.toSent =
        (sendQueued f.toTbf.sid f.toTbf.send f.credit f.toTbf.queue).2.2 := by
  induction queued generalizing f with
  | zero =>
      have empty : f.toTbf.queue = [] := by
        rw [toTbf, queue_eq_nil.mpr eq]
        rfl
      rw [drain, empty, sendQueued, ← empty]
      exact ⟨rfl, rfl⟩
  | succ queued ih =>
      obtain ⟨first, popped⟩ := popOldest_toTbf valid eq
      have length := length_oldestData valid
      rw [drain, first, sendQueued, asPacket, length]
      split_ifs with paid
      · have left : f.popOldest.queued = queued := by simp [popOldest, eq]
        obtain ⟨after, sent⟩ := ih (valid_popOldest valid) left
        have kept := @keeps_popOldest f
        have sid : f.popOldest.toTbf.sid = f.toTbf.sid := congrArg UInt16.toNat kept.sid
        have send : f.popOldest.toTbf.send = f.toTbf.send := kept.send
        have credit : f.popOldest.credit = f.credit - f.sizes f.oldest := rfl
        rw [sid, send, credit] at after sent
        dsimp only
        refine ⟨after.trans ?_, ?_⟩
        · rw [popped]
        · rw [List.map_append, sent, hand_toSent]
          rfl
      · refine ⟨?_, rfl⟩
        dsimp only
        rw [← length, ← asPacket, ← first]
        rfl

/-- What running a bucket sends is what its list sends. -/
theorem run_toTbf (valid : f.Valid) (time : UInt32) :
    (f.run time).1.toTbf = { f.toTbf with
        credit := (sendQueued f.toTbf.sid f.send (f.toTbf.available time.toNat) f.toTbf.queue).1
        lasttime := time.toNat
        queue := (sendQueued f.toTbf.sid f.send (f.toTbf.available time.toNat)
          f.toTbf.queue).2.1 } ∧
      (f.run time).2.map Handed.toSent =
        (sendQueued f.toTbf.sid f.send (f.toTbf.available time.toNat) f.toTbf.queue).2.2 := by
  have drained := drain_toTbf (valid_refill valid time) rfl
  have credit : (f.refill time).credit = f.toTbf.available time.toNat :=
    congrArg Tbf.credit (refill_toTbf time)
  rw [credit, refill_toTbf] at drained
  exact drained

/-- What becomes of a packet that is offered to a bucket with a list. -/
def fate (tbf : Tbf (List UInt8)) (data : List UInt8) : Fate :=
  if tbf.queue = [] ∧ ((asPacket data).size : Int) < tbf.credit then .sent
  else if tbfMaxQueue ≤ tbf.queue.length then .dropped
  else if tbfMaxSize ≤ (asPacket data).size then .dropped
  else .queued

/-- The bucket with a list, after that. -/
def offered (tbf : Tbf (List UInt8)) (data : List UInt8) : Tbf (List UInt8) :=
  match fate tbf data with
  | .sent => { tbf with credit := tbf.credit - (asPacket data).size }
  | .queued => { tbf with queue := tbf.queue ++ [asPacket data] }
  | .dropped => tbf

theorem offer_fate (data : List UInt8) : (f.offer data).2.2 = fate f.toTbf data := by
  have length : f.toTbf.queue.length = f.queued := by
    rw [toTbf, List.length_map, length_queue]
  have empty : f.toTbf.queue = [] ↔ f.queued = 0 := by
    rw [← List.length_eq_zero_iff, length]
  have size : (asPacket data).size = data.length := rfl
  have credit : f.toTbf.credit = f.credit := rfl
  have queued : (f.arrive data.length).queued = f.queued := rfl
  have credit' : (f.arrive data.length).credit = f.credit := rfl
  simp only [fate, empty, length, size, credit]
  simp only [offer, queued, credit']
  split_ifs <;> rfl

/-- A packet is sent, queued or dropped as with the list. -/
theorem offer_toTbf (valid : f.Valid) (data : List UInt8) :
    (f.offer data).1.toTbf = offered f.toTbf data ∧
      (f.offer data).2.1.map Handed.toSent =
        if fate f.toTbf data = .sent then sends f.toTbf data else [] := by
  have kept := @keeps_offer f data
  have takes := offer_spec valid data
  rw [offer_fate] at takes
  rw [offered]
  generalize (f.offer data).1 = g at *
  cases became : fate f.toTbf data with
  | sent =>
      obtain ⟨before, after, -, credit, handed, -⟩ := takes.sent became
      refine ⟨?_, ?_⟩
      · simp only [toTbf, kept.sid, kept.maxCredit, kept.rate, kept.send, takes.lasttime, before,
          after, credit]
        rfl
      · rw [handed, hand_toSent, if_pos rfl]
  | queued =>
      obtain ⟨queue, -, credit, handed, -⟩ := takes.queued became
      refine ⟨?_, ?_⟩
      · simp only [toTbf, kept.sid, kept.maxCredit, kept.rate, kept.send, takes.lasttime, queue,
          credit, List.map_append, List.map_singleton]
      · rw [handed, if_neg nofun]
        rfl
  | dropped =>
      obtain ⟨queue, credit, handed, -⟩ := takes.dropped became
      refine ⟨?_, ?_⟩
      · simp only [toTbf, kept.sid, kept.maxCredit, kept.rate, kept.send, takes.lasttime, queue,
          credit]
      · rw [handed, if_neg nofun]
        rfl

end Bucket

def Departure.toSent (departure : Departure) : Sent (List UInt8) := departure.packet.toSent

theorem map_toSent (id : Nat) (handed : List Handed) :
    (handed.map (⟨id, ·⟩ : Handed → Departure)).map Departure.toSent =
      handed.map Handed.toSent := by
  rw [List.map_map]
  rfl

namespace Filters

variable {st : Filters} {tbfs : Tbfs (List UInt8)}

/-- The table is in order, and the other one holds its buckets and its chain. -/
structure Refines (st : Filters) (tbfs : Tbfs (List UInt8)) : Prop where
  ordered : st.Ordered tbfs.timerChain
  size : tbfs.size = st.filterListSize
  bucket : ∀ i, tbfs.bucket i = (st.filterList i).toTbf
  p : tbfs.p = st.p
  time : tbfs.time = st.time.toNat

theorem runQueue_eq (id : Nat) :
    let f := tbfs.bucket id
    let out := sendQueued f.sid f.send (f.available tbfs.time) f.queue
    tbfs.tbfRunQueue id = ({ tbfs with
      bucket := Function.update tbfs.bucket id
        { f with credit := out.1, lasttime := tbfs.time, queue := out.2.1 }
      timerChain := if out.2.1 = [] then tbfs.timerChain.erase id else tbfs.timerChain },
      out.2.2) := by
  unfold Tbfs.tbfRunQueue
  dsimp only
  split_ifs with leaves empty empty
  · rfl
  · exact absurd leaves.1 empty
  · rw [List.erase_of_not_mem fun on => leaves ⟨empty, on⟩]
    rfl
  · rfl

/-- **A bucket is run** on both sides. -/
theorem Refines.tbfRunQueue (refines : st.Refines tbfs) {id : Nat}
    (real : 1 ≤ id ∧ id < st.filterListSize) :
    (st.tbfRunQueue id).1.Refines (tbfs.tbfRunQueue id).1 ∧
      (st.tbfRunQueue id).2.map Departure.toSent = (tbfs.tbfRunQueue id).2 := by
  obtain ⟨size, p, time⟩ := @tbfRunQueue_relinks st id
  obtain ⟨ran, handed⟩ := Bucket.run_toTbf (refines.ordered.valid id) st.time
  have empty : ((st.filterList id).run st.time).1.toTbf.queue = [] ↔
      ((st.filterList id).run st.time).1.queued = 0 := by
    rw [← Bucket.queue_eq_nil, Bucket.toTbf, List.map_eq_nil_iff]
  have send : (st.filterList id).toTbf.send = (st.filterList id).send := rfl
  rw [runQueue_eq, refines.bucket, refines.time, send]
  refine ⟨⟨?_, size ▸ refines.size, fun i => ?_, p ▸ refines.p, time ▸ rfl⟩, ?_⟩
  · have after := refines.ordered.tbfRunQueue real
    rw [ran] at empty
    simp only at empty ⊢
    simp only [empty]
    exact after
  · rw [tbfRunQueue_bucket]
    dsimp only
    rw [Function.update_apply, refines.bucket]
    split_ifs
    · exact ran.symm
    · rfl
  · rw [← handed]
    exact map_toSent id _

theorem freeTbf_relinks (tid : Nat) :
    (st.freeTbf tid).filterListSize = st.filterListSize ∧
      (st.freeTbf tid).p = st.p ∧ (st.freeTbf tid).time = st.time := by
  have off := @relinks_delFromTimer st tid
  unfold Filters.freeTbf
  dsimp only
  split_ifs
  · exact ⟨rfl, rfl, rfl⟩
  · exact ⟨off.size, off.p, off.time⟩
  · exact ⟨rfl, rfl, rfl⟩

/-- **A bucket is given back** on both sides. -/
theorem Refines.freeTbf (refines : st.Refines tbfs) {tid : Nat}
    (real : 1 ≤ tid ∧ tid < st.filterListSize) :
    (st.freeTbf tid).Refines (tbfs.freeTbf tid) := by
  have order := refines.ordered.freeTbf real
  have freed : tbfs.freeTbf tid = { tbfs with
      bucket := Function.update tbfs.bucket tid { tbfs.bucket tid with sid := 0 }
      timerChain := tbfs.timerChain.erase tid } := by
    rw [Tbfs.freeTbf, if_neg (Nat.not_lt.mpr real.1)]
    dsimp only
    split_ifs with on
    · rfl
    · rw [List.erase_of_not_mem on]
      rfl
  obtain ⟨size, p, time⟩ := @freeTbf_relinks st tid
  rw [freed]
  refine ⟨order, size ▸ refines.size, fun i => ?_, p ▸ refines.p, time ▸ refines.time⟩
  rw [freeTbf_bucket real.1]
  dsimp only
  rw [Function.update_apply, refines.bucket, refines.bucket]
  split_ifs <;> rfl

/-- The search for a free bucket finds the same one. -/
theorem Refines.findFree (refines : st.Refines tbfs) (i p : Nat) :
    tbfs.findFree i p =
      ((st.findFree i p).1, if (st.findFree i p).2 then some (st.findFree i p).1 else none) := by
  induction i generalizing p with
  | zero => rfl
  | succ i ih =>
      have used : (tbfs.bucket p).sid ≠ 0 ↔ (st.filterList p).sid ≠ 0 := by
        rw [refines.bucket, Ne, Ne, ← UInt16.toNat_inj]
        rfl
      rw [Tbfs.findFree, Filters.findFree, refines.size]
      by_cases taken : (st.filterList p).sid ≠ 0
      · rw [if_pos taken, if_pos (used.mpr taken)]
        exact ih _
      · rw [if_neg taken, if_neg (mt used.mp taken)]
        rfl

/-- **A bucket is allocated** on both sides. -/
theorem Refines.newTbf (refines : st.Refines tbfs) (sid maxCredit rate : Int)
    (direction : Direction) :
    (st.newTbf sid maxCredit rate (some direction)).1.Refines
        (tbfs.newTbf (UInt16.ofInt sid).toNat maxCredit rate direction).1 ∧
      (tbfs.newTbf (UInt16.ofInt sid).toNat maxCredit rate direction).2 =
        (st.newTbf sid maxCredit rate (some direction)).2 := by
  obtain ⟨order, buckets⟩ := refines.ordered.newTbf sid maxCredit rate (some direction)
  have found := refines.findFree st.filterListSize st.p
  unfold Filters.newTbf Tbfs.newTbf at *
  rw [refines.size, refines.p, found]
  generalize st.findFree st.filterListSize st.p = search at *
  obtain ⟨p, free⟩ := search
  cases free with
  | false => exact ⟨⟨order, rfl, refines.bucket, rfl, refines.time⟩, rfl⟩
  | true =>
      refine ⟨⟨order, refines.size, fun i => ?_, rfl, refines.time⟩, rfl⟩
      simp only [if_true, Tbfs.setBucket_bucket, Function.update_apply, setTbf_filterList]
      split_ifs
      · rfl
      · exact refines.bucket i

/-- What a packet does to the table with lists. -/
theorem queuePacket_eq {id : Nat} (inside : ¬ (tbfs.size < id ∨ id < 1))
    (allocated : (tbfs.bucket id).sid ≠ 0) (data : List UInt8) :
    let run := (tbfs.tbfRunQueue id).1
    let fate := Bucket.fate (run.bucket id) data
    tbfs.tbfQueuePacket id (asPacket data) = ({ run with
      bucket := Function.update run.bucket id (Bucket.offered (run.bucket id) data)
      timerChain := if fate = .queued ∧ id ∉ run.timerChain then run.timerChain ++ [id]
        else run.timerChain },
      (tbfs.tbfRunQueue id).2 ++
        if fate = .sent then Bucket.sends (run.bucket id) data else []) := by
  unfold Tbfs.tbfQueuePacket
  rw [if_neg inside, if_neg allocated]
  dsimp only
  generalize tbfs.tbfRunQueue id = ran
  obtain ⟨run, sent⟩ := ran
  dsimp only
  rw [Bucket.offered]
  cases became : Bucket.fate (run.bucket id) data <;> unfold Bucket.fate at became
  all_goals split_ifs at became with direct full large
  · rw [if_pos direct]
    rfl
  · rw [if_neg direct, if_neg full, if_neg large]
    simp only [reduceCtorEq, ↓reduceIte, true_and, List.append_nil]
    by_cases on : id ∈ run.timerChain
    · rw [if_neg (not_not.mpr on)]
      exact if_pos on
    · rw [if_pos on]
      exact if_neg on
  · rw [if_neg direct, if_pos full]
    simp
  · rw [if_neg direct, if_neg full, if_pos large]
    simp

theorem tbfQueuePacket_relinks (id : Nat) (data : List UInt8) :
    (st.tbfQueuePacket id data).1.filterListSize = st.filterListSize ∧
      (st.tbfQueuePacket id data).1.p = st.p ∧
      (st.tbfQueuePacket id data).1.time = st.time := by
  have ran := @tbfRunQueue_relinks st id
  have on := @relinks_addToTimer
    ((st.tbfRunQueue id).1.setBucket id (((st.tbfRunQueue id).1.filterList id).offer data).1) id
  unfold Filters.tbfQueuePacket
  split_ifs
  · exact ⟨rfl, rfl, rfl⟩
  · exact ⟨rfl, rfl, rfl⟩
  dsimp only
  split_ifs
  · exact ⟨on.size.trans ran.1, on.p.trans ran.2.1, on.time.trans ran.2.2⟩
  · exact ran

/-- **A packet runs through a bucket** on both sides. -/
theorem Refines.tbfQueuePacket (refines : st.Refines tbfs) {id : Nat}
    (real : 1 ≤ id ∧ id < st.filterListSize) (data : List UInt8) :
    (st.tbfQueuePacket id data).1.Refines (tbfs.tbfQueuePacket id (asPacket data)).1 ∧
      (st.tbfQueuePacket id data).2.1.map Departure.toSent =
        (tbfs.tbfQueuePacket id (asPacket data)).2 := by
  have outside : ¬ (st.filterListSize < id ∨ id < 1) := by omega
  have outside' : ¬ (tbfs.size < id ∨ id < 1) := refines.size ▸ outside
  have sid : (tbfs.bucket id).sid = 0 ↔ (st.filterList id).sid = 0 := by
    rw [refines.bucket, ← UInt16.toNat_inj]
    rfl
  by_cases free : (st.filterList id).sid = 0
  · unfold Filters.tbfQueuePacket Tbfs.tbfQueuePacket
    rw [if_neg outside, if_pos free, if_neg outside', if_pos (sid.mpr free)]
    exact ⟨refines, rfl⟩
  obtain ⟨ran, handed⟩ := refines.tbfRunQueue real
  have kept := @tbfRunQueue_relinks st id
  obtain ⟨after, more⟩ := Bucket.offer_toTbf (ran.ordered.valid id) data
  have used : ((st.tbfRunQueue id).1.filterList id).sid ≠ 0 := by
    rw [tbfRunQueue_bucket, if_pos rfl, (Bucket.keeps_run st.time).sid]
    exact free
  have order := ran.ordered.offer ⟨real.1, kept.1.symm ▸ real.2⟩ used data
  have buckets := @tbfQueuePacket_bucket st id data outside free
  have result := @tbfQueuePacket_result st id data outside free
  have same : (tbfs.tbfRunQueue id).1.bucket id = _ := ran.bucket id
  rw [Bucket.offer_fate, ← same] at order
  have relinks := @tbfQueuePacket_relinks st id data
  rw [queuePacket_eq outside' (mt sid.mp free)]
  refine ⟨⟨?_, ran.size.trans (kept.1.trans relinks.1.symm), fun i => ?_,
    ran.p.trans (kept.2.1.trans relinks.2.1.symm),
    ran.time.trans (congrArg (fun time => (time.toNat : Int))
      (kept.2.2.trans relinks.2.2.symm))⟩, ?_⟩
  · unfold Filters.tbfQueuePacket
    rw [if_neg outside, if_neg free]
    dsimp only
    rw [Bucket.offer_fate, ← same]
    exact order
  · rw [buckets]
    dsimp only
    rw [Function.update_apply, ran.bucket, ran.bucket]
    split_ifs
    · exact after.symm
    · rfl
  · rw [result, same, List.map_append, handed, map_toSent, more]

theorem Refines.runAll (refines : st.Refines tbfs) {ids : List Nat}
    (real : ∀ i ∈ ids, 1 ≤ i ∧ i < st.filterListSize) (earlier : List (Sent (List UInt8))) :
    let done := ids.foldl (fun state id =>
      let (run, sent) := state.1.tbfRunQueue id
      (run, state.2 ++ sent)) (tbfs, earlier)
    (Filters.runAll ids st).1.Refines done.1 ∧
      done.2 = earlier ++ (Filters.runAll ids st).2.map Departure.toSent := by
  induction ids generalizing st tbfs earlier with
  | nil => exact ⟨refines, (List.append_nil _).symm⟩
  | cons i ids ih =>
      obtain ⟨ran, handed⟩ := refines.tbfRunQueue (real i List.mem_cons_self)
      have size := (@tbfRunQueue_relinks st i).1
      obtain ⟨done, sent⟩ := ih ran
        (fun j mem => size.symm ▸ real j (List.mem_cons_of_mem i mem))
        (earlier ++ (tbfs.tbfRunQueue i).2)
      refine ⟨done, sent.trans ?_⟩
      rw [Filters.runAll, List.map_append, handed, List.append_assoc]

/-- **The timer** runs on both sides. -/
theorem Refines.tbfRunTimer (refines : st.Refines tbfs) :
    st.tbfRunTimer.1.Refines tbfs.tbfRunTimer.1 ∧
      st.tbfRunTimer.2.1.map Departure.toSent = tbfs.tbfRunTimer.2 := by
  rw [tbfRunTimer_eq refines.ordered]
  obtain ⟨done, sent⟩ := refines.runAll refines.ordered.real []
  exact ⟨done, sent.symm⟩

theorem Refines.setTime (refines : st.Refines tbfs) (time : UInt32) :
    Refines { st with time := time } { tbfs with time := time.toNat } :=
  have ordered := refines.ordered
  ⟨⟨ordered.toChained.congr (fun _ => rfl) (fun _ => rfl) rfl rfl, ordered.busy, ordered.valid,
    ordered.reserved, ordered.place⟩, refines.size, refines.bucket, refines.p, rfl⟩

/-- The table after a call, and what is sent. -/
def after (st : Filters) : Call → Filters × List Departure
  | .newTbf sid maxCredit rate send => ((st.newTbf sid maxCredit rate send).1, [])
  | .freeTbf tid => (st.freeTbf tid, [])
  | .tbfQueuePacket id data => ((st.tbfQueuePacket id data).1, (st.tbfQueuePacket id data).2.1)
  | .tbfRunTimer => (st.tbfRunTimer.1, st.tbfRunTimer.2.1)
  | .time time => ({ st with time := time }, [])

/-- The table with lists after a call, and what is sent. -/
def lists (tbfs : Tbfs (List UInt8)) : Call → Tbfs (List UInt8) × List (Sent (List UInt8))
  | .newTbf sid maxCredit rate (some direction) =>
      ((tbfs.newTbf (UInt16.ofInt sid).toNat maxCredit rate direction).1, [])
  | .newTbf _ _ _ none => (tbfs, [])
  | .freeTbf tid => (tbfs.freeTbf tid, [])
  | .tbfQueuePacket id data => tbfs.tbfQueuePacket id (asPacket data)
  | .tbfRunTimer => tbfs.tbfRunTimer
  | .time time => ({ tbfs with time := time.toNat }, [])

/-- The ids are those of buckets, and a new bucket has a helper. -/
def Proper (size : Nat) : Call → Prop
  | .newTbf _ _ _ send => send.isSome
  | call => call.InRange size

theorem Refines.after_size (refines : st.Refines tbfs) (call : Call) :
    (st.after call).1.filterListSize = st.filterListSize := by
  cases call with
  | newTbf sid maxCredit rate send =>
      rw [Filters.after, Filters.newTbf]
      dsimp only
      split <;> rfl
  | freeTbf tid => exact (freeTbf_relinks tid).1
  | tbfQueuePacket id data => exact (tbfQueuePacket_relinks id data).1
  | tbfRunTimer => exact (tbfRunTimer_spec refines.ordered).2.1.size
  | time time => rfl

theorem Refines.after (refines : st.Refines tbfs) {call : Call}
    (proper : Proper st.filterListSize call) :
    (st.after call).1.Refines (lists tbfs call).1 ∧
      (st.after call).2.map Departure.toSent = (lists tbfs call).2 := by
  cases call with
  | newTbf sid maxCredit rate send =>
      obtain ⟨direction, rfl⟩ := Option.isSome_iff_exists.mp proper
      exact ⟨(refines.newTbf sid maxCredit rate direction).1, rfl⟩
  | freeTbf tid => exact ⟨refines.freeTbf proper, rfl⟩
  | tbfQueuePacket id data => exact refines.tbfQueuePacket proper data
  | tbfRunTimer => exact refines.tbfRunTimer
  | time time => exact ⟨refines.setTime time, rfl⟩

/-- The table after some calls, and what is sent. -/
def afterAll (st : Filters) : List Call → Filters × List Departure
  | [] => (st, [])
  | call :: calls =>
      let (last, more) := (st.after call).1.afterAll calls
      (last, (st.after call).2 ++ more)

/-- The table with lists after some calls, and what is sent. -/
def listsAll (tbfs : Tbfs (List UInt8)) :
    List Call → Tbfs (List UInt8) × List (Sent (List UInt8))
  | [] => (tbfs, [])
  | call :: calls =>
      let (last, more) := listsAll (lists tbfs call).1 calls
      (last, (lists tbfs call).2 ++ more)

/-- **The table refines the one with lists.** Whatever the calls are, both send the same packets
in the same order. -/
theorem afterAll_refines (refines : st.Refines tbfs) (calls : List Call)
    (serve : ∀ call ∈ calls, Proper st.filterListSize call) :
    (st.afterAll calls).1.Refines (listsAll tbfs calls).1 ∧
      (st.afterAll calls).2.map Departure.toSent = (listsAll tbfs calls).2 := by
  induction calls generalizing st tbfs with
  | nil => exact ⟨refines, rfl⟩
  | cons call calls ih =>
      obtain ⟨next, sent⟩ := refines.after (serve call List.mem_cons_self)
      obtain ⟨last, more⟩ := ih next fun later mem =>
        (refines.after_size call).symm ▸ serve later (List.mem_cons_of_mem call mem)
      refine ⟨last, ?_⟩
      rw [afterAll, listsAll, List.map_append, sent, more]

/-- The table is created with empty lists. -/
theorem initTbf_refines {numTbfs : Nat} (some : 0 < numTbfs) (time : UInt32) :
    (initTbf numTbfs time).Refines
      ⟨numTbfs, fun i => if i = 0 then { Tbf.empty with sid := 65535 } else .empty, [], 0,
        time.toNat⟩ := by
  obtain ⟨ids, ordered, -⟩ := run_inv (.initial ⟨numTbfs, time, some, rfl⟩)
  have off : ∀ i, ((initTbf numTbfs time).filterList i).next = 0 := by
    intro i
    simp only [initTbf, Function.update_apply]
    split_ifs <;> rfl
  obtain rfl : ids = [] := List.eq_nil_iff_forall_not_mem.mpr fun i mem => ordered.on mem (off i)
  refine ⟨ordered, rfl, fun i => ?_, rfl, rfl⟩
  simp only [initTbf, Function.update_apply]
  split_ifs <;> rfl

/-- One of two buckets is taken, offered a packet and run. -/
def shapedCalls : List Call :=
  [.newTbf 1 100 50 (some .inward), .tbfQueuePacket 1 [4], .tbfRunTimer]

theorem afterAll_refines_shaped : ∃ tbfs, ((initTbf 2 7).afterAll shapedCalls).1.Refines
    (listsAll tbfs shapedCalls).1 ∧
      ((initTbf 2 7).afterAll shapedCalls).2.map Departure.toSent =
        (listsAll tbfs shapedCalls).2 :=
  ⟨_, afterAll_refines (initTbf_refines (by decide) 7) shapedCalls
    (by simp [shapedCalls, Proper, Call.InRange, initTbf])⟩

end Filters

end L2tpns.Shaping
