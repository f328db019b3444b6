import L2tpns.Shaping.Chain
import L2tpns.Foundation.TokenBucket

/-! # The rate of a token bucket

What a throttled session may send. A bucket as `throttle_session` makes it is a token bucket in
the sense of the library, in spite of its 32-bit arithmetic, so that it keeps its rate in every
run (`L2tpns.Shaping.rate_bound`).
-/

namespace L2tpns.Shaping

open Foundation.TokenBucket
open Server.Throttle (Direction)

/-- The constants of a bucket for a rate in kbit/s: 1024 bits are 128 bytes, a burst is twice the
rate, and the rate is earned over 10 units of time. -/
def terms (kbit : Nat) : Terms := ⟨256 * kbit, 128 * kbit, 10⟩

/-- The bucket of a session that is throttled to a rate in kbit/s. -/
def throttleBytes (kbit : Int) : Int := kbit * 1024 / 8

/-- A bucket as `throttle_session` makes it, and as it stays. -/
structure Bucket.Paced (kbit : Nat) (f : Bucket) : Prop where
  rate : f.rate = 128 * kbit
  maxCredit : f.maxCredit = 256 * kbit
  helper : f.send ≠ none
  valid : f.Valid
  solvent : 0 ≤ f.credit
  full : f.credit ≤ 256 * kbit

/-- The credit of a bucket and its time. -/
def Bucket.meter (f : Bucket) : Meter := ⟨f.credit, f.lasttime.toNat⟩

namespace Bucket

variable {f g h : Bucket} {kbit : Nat}

theorem paced_fresh (kbit : Nat) (sid : Int) (direction : Direction) :
    (fresh sid (throttleBytes kbit * 2) (throttleBytes kbit) (some direction)).Paced kbit := by
  have bytes : throttleBytes kbit = 128 * kbit := by
    unfold throttleBytes
    omega
  refine ⟨bytes, ?_, nofun, valid_fresh .., ?_, ?_⟩
  all_goals
    simp only [fresh, bytes]
    omega

/-- The credit that a bucket earns: the product is taken in 32 bits. -/
theorem refill_credit (paced : f.Paced kbit) (small : kbit ≤ 65535) (time : UInt32) :
    (f.refill time).credit = min (f.credit +
      ((time - f.lasttime).toNat * (128 * kbit) % 2 ^ 32 / 10 : Nat)) f.maxCredit := by
  have solvent := paced.solvent
  have full := paced.full
  have rate : (UInt32.ofInt f.rate).toNat = 128 * kbit := by
    rw [paced.rate, UInt32.ofInt, UInt32.toNat_ofNat']
    omega
  have product : ((time - f.lasttime) * UInt32.ofInt f.rate).toNat =
      (time - f.lasttime).toNat * (128 * kbit) % 2 ^ 32 := by
    rw [UInt32.toNat_mul, rate]
  unfold refill
  dsimp only
  rw [product]
  generalize (time - f.lasttime).toNat * (128 * kbit) = earned
  have exact : (f.credit + (earned % 2 ^ 32 / 10 : Nat)).bmod (2 ^ 32) =
      f.credit + (earned % 2 ^ 32 / 10 : Nat) := Int.bmod_eq_of_le (by omega) (by omega)
  rw [exact]
  split_ifs with high
  · rw [min_eq_right high.le]
  · rw [min_eq_left (not_lt.mp high)]

/-- A call at some time served a bucket, which let so many bytes go. -/
structure Served (kbit : Nat) (time : UInt32) (f : Bucket) (out : Int) (g : Bucket) : Prop where
  keeps : f.Keeps g
  valid : g.Valid
  meter : g = f ∧ out = 0 ∨ Pays (terms kbit) f.meter time.toNat out g.meter

theorem Served.paced (served : f.Served kbit time out g) (paced : f.Paced kbit)
    (amount : 0 ≤ out) : g.Paced kbit := by
  refine ⟨served.keeps.rate.trans paced.rate, served.keeps.maxCredit.trans paced.maxCredit,
    served.keeps.send ▸ paced.helper, served.valid, ?_, ?_⟩
  · rcases served.meter with ⟨rfl, -⟩ | pays
    · exact paced.solvent
    · exact pays.solvent
  · rcases served.meter with ⟨rfl, -⟩ | pays
    · exact paced.full
    · have burst : g.credit + out ≤ 256 * kbit := pays.burst
      omega

theorem Served.order (served : f.Served kbit time out g) (before : f.lasttime ≤ time) :
    g.lasttime ≤ time := by
  rcases served.meter with ⟨rfl, -⟩ | pays
  · exact before
  · exact UInt32.le_iff_toNat_le.mpr (pays.last : g.lasttime.toNat = _).le

theorem Served.refl (valid : f.Valid) (time : UInt32) : f.Served kbit time 0 f :=
  ⟨.refl f, valid, .inl ⟨rfl, rfl⟩⟩

theorem Served.trans {time : UInt32} {out more : Int} (first : f.Served kbit time out g)
    (second : g.Served kbit time more h) : f.Served kbit time (out + more) h := by
  refine ⟨first.keeps.trans second.keeps, second.valid, ?_⟩
  rcases second.meter with ⟨rfl, rfl⟩ | later
  · rw [Int.add_zero]
    exact first.meter
  · rcases first.meter with ⟨rfl, rfl⟩ | before
    · rw [Int.zero_add]
      exact .inr later
    · exact .inr (before.merge (Nat.succ_pos 9) later)

/-- The bytes of what is handed over. -/
def sizeSum (handed : List Handed) : Nat := (handed.map Handed.size).sum

theorem Drains.sizeSum {k : Nat} {handed : List Handed} (drains : f.Drains k g handed)
    (helper : f.send ≠ none) : sizeSum handed = bytes (f.queue.take k) := by
  have data := drains.data
  rw [if_pos (Option.isSome_iff_ne_none.mpr helper)] at data
  rw [← data, bytes, List.map_map]
  exact congrArg List.sum (List.map_congr_left drains.sizes)

/-- **A bucket that is run pays for what it sends.** -/
theorem served_run (paced : f.Paced kbit) (small : kbit ≤ 65535) {time : UInt32}
    (order : f.lasttime ≤ time) : f.Served kbit time (sizeSum (f.run time).2) (f.run time).1 := by
  obtain ⟨k, drains⟩ := run_spec paced.valid time
  have earned := refill_credit paced small time
  have solvent := paced.solvent
  have full := paced.full
  have max := paced.maxCredit
  have ordered : f.lasttime.toNat ≤ time.toNat := order
  rw [UInt32.toNat_sub_of_le _ _ order] at earned
  have spent := drains.credit
  rw [← drains.sizeSum paced.helper] at spent
  refine ⟨keeps_run time, drains.valid, .inr ⟨ordered, ?_, drains.solvent ?_, ?_, ?_⟩⟩
  · exact congrArg UInt32.toNat drains.lasttime
  · rw [earned]
    omega
  · have burst : (f.run time).1.credit + sizeSum (f.run time).2 ≤ 256 * (kbit : Int) := by omega
    exact burst
  · have product : (time.toNat - f.lasttime.toNat) * (128 * kbit) % 2 ^ 32 ≤
        128 * kbit * (time.toNat - f.lasttime.toNat) := Nat.mul_comm .. ▸ Nat.mod_le _ _
    generalize (time.toNat - f.lasttime.toNat) * (128 * kbit) % 2 ^ 32 = wrapped at *
    have owed : 10 * ((f.run time).1.credit + sizeSum (f.run time).2) ≤
        10 * f.credit + (128 * kbit * (time.toNat - f.lasttime.toNat) : Nat) := by omega
    push_cast at owed
    exact_mod_cast owed

/-- A packet that is sent at once is paid for, and no other is. -/
theorem served_offer (paced : f.Paced kbit) {time : UInt32} (now : f.lasttime = time)
    (data : List UInt8) :
    f.Served kbit time (sizeSum (f.offer data).2.1) (f.offer data).1 := by
  have takes := offer_spec paced.valid data
  have keeps := @keeps_offer f data
  have solvent := paced.solvent
  have full := paced.full
  generalize f.offer data = offered at *
  obtain ⟨g, handed, fate⟩ := offered
  dsimp only at *
  have paid : g.credit + sizeSum handed = f.credit ∧ 0 ≤ g.credit := by
    cases fate with
    | sent =>
        obtain ⟨-, -, enough, credit, rfl, -⟩ := takes.sent rfl
        obtain ⟨direction, helper⟩ := Option.ne_none_iff_exists'.mp paced.helper
        have size : sizeSum (f.hand data data.length) = data.length := by
          simp [sizeSum, hand, helper]
        rw [size]
        omega
    | queued =>
        obtain ⟨-, -, credit, rfl, -⟩ := takes.queued rfl
        exact ⟨by rw [credit]; exact Int.add_zero _, credit ▸ solvent⟩
    | dropped =>
        obtain ⟨-, credit, rfl, -⟩ := takes.dropped rfl
        exact ⟨by rw [credit]; exact Int.add_zero _, credit ▸ solvent⟩
  have same : f.lasttime.toNat = time.toNat := congrArg UInt32.toNat now
  have spent : g.meter.credit + sizeSum handed = f.meter.credit := paid.1
  refine ⟨keeps, takes.valid, .inr ⟨same.le, ?_, paid.2, ?_, ?_⟩⟩
  · rw [← same]
    exact congrArg UInt32.toNat takes.lasttime
  · rw [spent]
    exact full
  · rw [spent]
    exact le_add_of_nonneg_right (by positivity)

end Bucket

/-- The calls on a bucket in use: a packet arrives, or the timer runs. -/
inductive Use
  | tbfQueuePacket (id : Nat) (data : List UInt8)
  | tbfRunTimer

/-- The bytes that a bucket lets go. -/
def bytesOf (id : Nat) (departures : List Departure) : Nat :=
  Bucket.sizeSum ((departures.filter (·.id = id)).map Departure.packet)

namespace Filters

variable {st : Filters} {kbit : Nat}

def use (st : Filters) : Use → Filters × List Departure
  | .tbfQueuePacket id data => ((st.tbfQueuePacket id data).1, (st.tbfQueuePacket id data).2.1)
  | .tbfRunTimer => (st.tbfRunTimer.1, st.tbfRunTimer.2.1)

/-- Calls at their times, and the bytes that a bucket lets go in each. -/
def uses (id : Nat) : Filters → List (UInt32 × Use) → Filters × List (Nat × Int)
  | st, [] => (st, [])
  | st, (time, call) :: calls =>
      let (next, departures) := { st with time := time }.use call
      let (done, trace) := uses id next calls
      (done, (time.toNat, (bytesOf id departures : Int)) :: trace)

theorem bytesOf_append (id : Nat) (departures more : List Departure) :
    bytesOf id (departures ++ more) = bytesOf id departures + bytesOf id more := by
  simp [bytesOf, Bucket.sizeSum]

theorem bytesOf_one (id i : Nat) (handed : List Handed) :
    bytesOf i (handed.map (⟨id, ·⟩)) = if i = id then Bucket.sizeSum handed else 0 := by
  unfold bytesOf
  split_ifs with same
  · rw [List.filter_eq_self.mpr (by simp [same]), List.map_map]
    exact congrArg Bucket.sizeSum (List.map_id handed)
  · rw [List.filter_eq_nil_iff.mpr (by simp [Ne.symm same]), List.map_nil]
    rfl

/-- The bucket of `id` paid for the bytes of its departures. -/
def Serves (kbit : Nat) (id : Nat) (st : Filters) (departures : List Departure) (st' : Filters) :
    Prop :=
  (st.filterList id).Served kbit st.time (bytesOf id departures) (st'.filterList id).toBucket

variable {id : Nat}

theorem serves_tbfRunQueue (paced : (st.filterList id).Paced kbit) (small : kbit ≤ 65535)
    (order : (st.filterList id).lasttime ≤ st.time) (i : Nat) :
    st.Serves kbit id (st.tbfRunQueue i).2 (st.tbfRunQueue i).1 := by
  have bytes : bytesOf id (st.tbfRunQueue i).2 = _ :=
    bytesOf_one i id ((st.filterList i).run st.time).2
  unfold Serves
  rw [bytes, tbfRunQueue_bucket]
  split_ifs with own
  · rw [← own]
    exact Bucket.served_run paced small order
  · exact .refl paced.valid st.time

theorem Serves.paced {st' : Filters} {departures : List Departure}
    (serves : st.Serves kbit id departures st') (paced : (st.filterList id).Paced kbit) :
    (st'.filterList id).Paced kbit :=
  Bucket.Served.paced serves paced (Int.natCast_nonneg _)

theorem Serves.order {st' : Filters} {departures : List Departure}
    (serves : st.Serves kbit id departures st') (before : (st.filterList id).lasttime ≤ st.time) :
    (st'.filterList id).lasttime ≤ st.time :=
  Bucket.Served.order serves before

theorem serves_tbfQueuePacket (paced : (st.filterList id).Paced kbit) (small : kbit ≤ 65535)
    (order : (st.filterList id).lasttime ≤ st.time) (i : Nat) (data : List UInt8) :
    st.Serves kbit id (st.tbfQueuePacket i data).2.1 (st.tbfQueuePacket i data).1 := by
  by_cases outside : st.filterListSize < i ∨ i < 1
  · unfold tbfQueuePacket
    rw [if_pos outside]
    exact .refl paced.valid st.time
  by_cases free : (st.filterList i).sid = 0
  · unfold tbfQueuePacket
    rw [if_neg outside, if_pos free]
    exact .refl paced.valid st.time
  have ran := serves_tbfRunQueue paced small order i
  have bucket := @tbfQueuePacket_bucket st i data outside free id
  unfold Serves at ran ⊢
  rw [bucket, tbfQueuePacket_result outside free, bytesOf_append, bytesOf_one, Nat.cast_add]
  split_ifs with own
  · subst own
    have now : ((st.tbfRunQueue id).1.filterList id).lasttime = st.time := by
      obtain ⟨k, drains⟩ := Bucket.run_spec paced.valid st.time
      rw [tbfRunQueue_bucket, if_pos rfl]
      exact drains.lasttime
    exact ran.trans (Bucket.served_offer (ran.paced paced (Int.natCast_nonneg _)) now data)
  · rwa [Nat.cast_zero, Int.add_zero]

/-- The timer serves a bucket as often as it comes to it. -/
theorem serves_walk (paced : (st.filterList id).Paced kbit) (small : kbit ≤ 65535)
    (order : (st.filterList id).lasttime ≤ st.time) (last count i : Nat) :
    st.Serves kbit id (walk last count i st).2.1 (walk last count i st).1 := by
  induction count generalizing i st with
  | zero => exact .refl paced.valid st.time
  | succ count ih =>
      have ran := serves_tbfRunQueue paced small order i
      have time := (@tbfRunQueue_relinks st i).2.2
      have rest := @ih (st.tbfRunQueue i).1 (ran.paced paced)
        (time ▸ ran.order order) (st.filterList i).next
      unfold Serves at ran rest ⊢
      rw [time] at rest
      rw [walk]
      dsimp only
      split_ifs
      · dsimp only
        rw [bytesOf_append, Nat.cast_add]
        exact ran.trans rest
      · exact ran

theorem serves_use (paced : (st.filterList id).Paced kbit) (small : kbit ≤ 65535)
    (order : (st.filterList id).lasttime ≤ st.time) (call : Use) :
    st.Serves kbit id (st.use call).2 (st.use call).1 := by
  cases call with
  | tbfQueuePacket i data => exact serves_tbfQueuePacket paced small order i data
  | tbfRunTimer =>
      unfold use tbfRunTimer
      split_ifs
      · exact .refl paced.valid st.time
      · exact serves_walk paced small order _ _ _

/-- **A bucket in use is a token bucket.** -/
theorem run_uses (paced : (st.filterList id).Paced kbit) (small : kbit ≤ 65535)
    {calls : List (UInt32 × Use)} (sorted : (calls.map Prod.fst).Pairwise (· ≤ ·))
    (order : ∀ call ∈ calls, (st.filterList id).lasttime ≤ call.1) :
    ((uses id st calls).1.filterList id).Paced kbit ∧
      Run (terms kbit) (st.filterList id).meter (uses id st calls).2
        ((uses id st calls).1.filterList id).meter := by
  induction calls generalizing st with
  | nil => exact ⟨paced, .nil _⟩
  | cons first calls ih =>
      obtain ⟨time, call⟩ := first
      have early : (st.filterList id).lasttime ≤ time := order (time, call) (by simp)
      rw [List.map_cons, List.pairwise_cons] at sorted
      have serves := @serves_use { st with time := time } kbit id paced small early call
      obtain ⟨later, run⟩ := @ih ({ st with time := time }.use call).1 (serves.paced paced) sorted.2
        fun next mem => UInt32.le_trans (serves.order early)
          (sorted.1 next.1 (List.mem_map_of_mem mem))
      refine ⟨later, ?_⟩
      rcases serves.meter with ⟨same, none⟩ | pays
      · have entry : (uses id st ((time, call) :: calls)).2 =
            (time.toNat, 0) :: (uses id ({ st with time := time }.use call).1 calls).2 :=
          congrArg (fun out => (time.toNat, out) :: _) none
        rw [entry]
        rw [same] at run
        exact .idle early run
      · exact .cons pays run

end Filters

theorem uses_nonneg (id : Nat) (st : Filters) (calls : List (UInt32 × Use)) :
    ∀ entry ∈ (st.uses id calls).2, 0 ≤ entry.2 := by
  induction calls generalizing st with
  | nil => nofun
  | cons call calls ih =>
      intro entry mem
      rcases List.mem_cons.mp mem with rfl | mem
      · exact Int.natCast_nonneg _
      · exact ih _ entry mem

/-- **The rate of a throttled session.** In every run after `throttle_session` made a bucket, the
bucket sends at most one burst and what its rate earns between two times, and its credit stays
between 0 and a burst. -/
theorem rate_bound (st : Filters) {kbit : Nat} (small : kbit ≤ 65535) (sid : Int)
    (direction : Direction) {st' : Filters} {id : Nat} (real : id ≠ 0)
    (made : st.newTbf sid (throttleBytes kbit * 2) (throttleBytes kbit) (some direction) =
      (st', id))
    {calls : List (UInt32 × Use)} (sorted : (calls.map Prod.fst).Pairwise (· ≤ ·)) :
    (0 ≤ ((st'.uses id calls).1.filterList id).credit ∧
      ((st'.uses id calls).1.filterList id).credit ≤ (st'.filterList id).maxCredit) ∧
    ∀ first last : Nat, first ≤ last →
      within first last (st'.uses id calls).2 ≤
        (st'.filterList id).maxCredit + (st'.filterList id).rate * (last - first) / 10 := by
  have bucket : (st'.filterList id).toBucket =
      .fresh sid (throttleBytes kbit * 2) (throttleBytes kbit) (some direction) := by
    unfold Filters.newTbf at made
    split at made
    · cases made
      exact absurd rfl real
    · cases made
      exact congrArg Tbft.toBucket ((Filters.setTbf_filterList ..).trans (if_pos rfl))
  have paced : (st'.filterList id).Paced kbit := bucket ▸ Bucket.paced_fresh kbit sid direction
  obtain ⟨later, run⟩ := st'.run_uses paced small sorted fun call _ => by
    rw [bucket]
    exact UInt32.zero_le
  refine ⟨⟨later.solvent, paced.maxCredit ▸ later.full⟩, fun first last span => ?_⟩
  have burst : (0 : Int) ≤ (terms kbit).burst := by
    simp only [terms]
    positivity
  have bound : 10 * within first last (st'.uses id calls).2 ≤
      10 * (256 * kbit) + (128 * kbit : Nat) * (last - first : Nat) :=
    run.bound burst span (uses_nonneg id st' calls)
  rw [paced.maxCredit, paced.rate]
  push_cast [Nat.cast_sub span] at bound
  omega

/-- A table with one bucket, for 1 kbit/s. -/
def oneBucket : Filters :=
  ((Filters.initTbf 3 0).newTbf 5 (throttleBytes 1 * 2) (throttleBytes 1) (some .inward)).1

def threePackets : List (UInt32 × Use) :=
  [(7, .tbfQueuePacket 1 (List.replicate 100 0)), (8, .tbfQueuePacket 1 (List.replicate 100 0)),
    (9, .tbfQueuePacket 1 (List.replicate 100 0))]

theorem threePackets_bounded :
    (oneBucket.uses 1 threePackets).2 = [(7, 100), (8, 100), (9, 0)] ∧
      (0 ≤ ((oneBucket.uses 1 threePackets).1.filterList 1).credit ∧
        ((oneBucket.uses 1 threePackets).1.filterList 1).credit ≤
          (oneBucket.filterList 1).maxCredit) ∧
      ∀ first last : Nat, first ≤ last →
        within first last (oneBucket.uses 1 threePackets).2 ≤
          (oneBucket.filterList 1).maxCredit +
            (oneBucket.filterList 1).rate * (last - first) / 10 :=
  ⟨by decide, rate_bound (Filters.initTbf 3 0) (by decide) 5 .inward
    (by decide) (Prod.ext rfl rfl) (by decide)⟩

end L2tpns.Shaping
