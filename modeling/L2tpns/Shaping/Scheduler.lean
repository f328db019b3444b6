import Mathlib.Data.List.Perm.Subperm
import L2tpns.Shaping.Chain

/-! # The scheduler of the token buckets

The chain holds exactly the allocated buckets with packets in them, a call of the timer runs each
of these once, every bucket sends what it accepted in its order, and its counters add up
(`L2tpns.Shaping.scheduler_correct`).
-/

namespace L2tpns.Shaping

open Foundation.LinkedRing
open Server.Throttle (tbfMaxSize)

/-- The chain holds the allocated buckets that have packets, and the buckets are in order. -/
structure Filters.Ordered (st : Filters) (ids : List Nat) : Prop extends st.Chained ids where
  busy : ∀ id, 1 ≤ id → id < st.filterListSize →
    (id ∈ ids ↔ (st.filterList id).sid ≠ 0 ∧ (st.filterList id).queued ≠ 0)
  valid : ∀ id, (st.filterList id).Valid
  reserved : (st.filterList 0).sid ≠ 0
  place : st.p < st.filterListSize

/-- A bucket sent the front of what it accepted, and its counters add up. -/
structure Bucket.Flow (f : Bucket) (accepted sent : List (List UInt8)) : Prop where
  fifo : f.send.isSome → accepted = sent ++ f.queue
  silent : f.send = none → sent = []
  counted : f.bQueued = f.bSent + f.bDropped + .ofNat (Bucket.bytes f.queue)

namespace Bucket

variable {f g : Bucket} {accepted sent : List (List UInt8)} {handed : List Handed}

theorem Flow.drains (flow : f.Flow accepted sent) {k : Nat} (drains : f.Drains k g handed)
    (kept : f.Keeps g) : g.Flow accepted (sent ++ handed.map Handed.data) where
  fifo some := by
    rw [kept.send] at some
    rw [drains.data, if_pos some, drains.queue, List.append_assoc, List.take_append_drop]
    exact flow.fifo some
  silent none := by
    rw [kept.send] at none
    rw [drains.data, none, flow.silent none]
    rfl
  counted := by
    have split : bytes f.queue = bytes (f.queue.take k) + bytes (f.queue.drop k) := by
      rw [← bytes_append, List.take_append_drop]
    rw [drains.bQueued, drains.counted, drains.queue, flow.counted, split, UInt32.ofNat_add,
      UInt32.add_assoc (f.bSent + f.bDropped)]

theorem Flow.refill (flow : f.Flow accepted sent) (time : UInt32) :
    (f.refill time).Flow accepted sent :=
  ⟨flow.fifo, flow.silent, flow.counted⟩

/-- A packet that is offered is accepted unless it is dropped. -/
theorem Flow.takes (flow : f.Flow accepted sent) {data : List UInt8} {fate : Fate}
    (takes : f.Takes data g handed fate) (kept : f.Keeps g) :
    g.Flow (if fate = .dropped then accepted else accepted ++ [data])
      (sent ++ handed.map Handed.data) := by
  cases fate with
  | sent =>
      obtain ⟨empty, left, -, -, rfl, counted⟩ := takes.sent rfl
      rw [if_neg (by decide), hand_data]
      refine ⟨fun some => ?_, fun none => ?_, ?_⟩
      · rw [kept.send] at some
        have before := flow.fifo some
        rw [empty, List.append_nil] at before
        rw [if_pos some, left, List.append_nil, before]
      · rw [kept.send] at none
        rw [none, flow.silent none]
        rfl
      · have before := flow.counted
        rw [empty] at before
        rw [takes.bQueued, counted, left, before]
        simp
  | queued =>
      obtain ⟨queue, -, -, rfl, counted⟩ := takes.queued rfl
      rw [if_neg (by decide), List.map_nil, List.append_nil]
      refine ⟨fun some => ?_, fun none => flow.silent (kept.send ▸ none), ?_⟩
      · rw [kept.send] at some
        rw [queue, ← List.append_assoc, ← flow.fifo some]
      · rw [takes.bQueued, counted, queue, flow.counted, bytes_append, bytes_cons, bytes_nil,
          Nat.add_zero, UInt32.ofNat_add, UInt32.add_assoc (f.bSent + f.bDropped)]
  | dropped =>
      obtain ⟨queue, -, rfl, counted⟩ := takes.dropped rfl
      rw [if_pos rfl, List.map_nil, List.append_nil]
      refine ⟨fun some => ?_, fun none => flow.silent (kept.send ▸ none), ?_⟩
      · rw [kept.send] at some
        rw [queue, ← flow.fifo some]
      · rw [takes.bQueued, counted, queue, flow.counted]
        simp only [UInt32.add_assoc, UInt32.add_comm (UInt32.ofNat (bytes f.queue))]

theorem flow_new {f : Bucket} (queued : f.queued = 0)
    (counters : f.bQueued = f.bSent + f.bDropped) : f.Flow [] [] := by
  have empty : f.queue = [] := queue_eq_nil.mpr queued
  exact ⟨fun _ => by rw [empty]; rfl, fun _ => rfl, by rw [empty, counters]; simp⟩

end Bucket

namespace Filters

variable {st : Filters} {ids : List Nat}

theorem Ordered.changed (ordered : st.Ordered ids) {st' : Filters} {ids' : List Nat} {id : Nat}
    {g : Bucket} (chained : st'.Chained ids')
    (bucket : ∀ i, (st'.filterList i).toBucket = if i = id then g else (st.filterList i).toBucket)
    (size : st'.filterListSize = st.filterListSize) (place : st'.p < st.filterListSize)
    (real : 1 ≤ id) (valid : g.Valid) (others : ∀ i ≠ id, i ∈ ids' ↔ i ∈ ids)
    (own : id ∈ ids' ↔ g.sid ≠ 0 ∧ g.queued ≠ 0) : st'.Ordered ids' where
  toChained := chained
  busy i low high := by
    rw [bucket]
    by_cases same : i = id
    · rw [if_pos same, same]
      exact own
    · rw [if_neg same, others i same]
      exact ordered.busy i low (size ▸ high)
  valid i := by
    rw [bucket]
    split_ifs
    · exact valid
    · exact ordered.valid i
  reserved := by
    rw [bucket, if_neg (by omega)]
    exact ordered.reserved
  place := size ▸ place

/-- **A bucket is run**, and leaves the chain when it is empty. -/
theorem Ordered.tbfRunQueue (ordered : st.Ordered ids) {id : Nat}
    (real : 1 ≤ id ∧ id < st.filterListSize) :
    (st.tbfRunQueue id).1.Ordered
      (if ((st.filterList id).run st.time).1.queued = 0 then ids.erase id else ids) := by
  obtain ⟨k, drains⟩ := Bucket.run_spec (ordered.valid id) st.time
  have kept := @Bucket.keeps_run (st.filterList id).toBucket st.time
  have bucket := @tbfRunQueue_bucket st id
  obtain ⟨size, place, -⟩ := @tbfRunQueue_relinks st id
  have busy := ordered.busy id real.1 real.2
  unfold Filters.tbfRunQueue at *
  dsimp only at *
  generalize (st.filterList id).run st.time = ran at *
  have put : (st.setBucket id ran.1).Chained ids :=
    ordered.toChained.congr (setBucket_next id ran.1) (setBucket_prev id ran.1) rfl rfl
  by_cases empty : ran.1.queued = 0
  · rw [if_pos empty]
    have none : id ∉ ids.erase id := fun mem =>
      (List.Nodup.mem_erase_iff ordered.distinct).mp mem |>.1 rfl
    refine ordered.changed ?_ bucket size (place ▸ ordered.place) real.1 drains.valid
      (fun i other => List.mem_erase_of_ne other) ?_
    · rw [if_neg (not_not.mpr empty)]
      split_ifs with linked
      · exact chained_delFromTimer put ((put.mem_iff id).mpr linked)
      · rw [List.erase_of_not_mem fun mem => linked (put.on mem)]
        exact put
    · exact iff_of_false none fun both => both.2 empty
  · rw [if_neg empty]
    refine ordered.changed ?_ bucket size (place ▸ ordered.place) real.1 drains.valid
      (fun i _ => Iff.rfl) ?_
    · rw [if_pos empty]
      exact put
    · have before : (st.filterList id).queued ≠ 0 := by
        intro none
        have old : ((st.filterList id).refill st.time).queue = [] := Bucket.queue_eq_nil.mpr none
        have left := drains.queue
        rw [old, List.drop_nil] at left
        exact empty (Bucket.queue_eq_nil.mp left)
      rw [busy, kept.sid]
      exact and_congr_right fun _ => iff_of_true before empty

/-- **A bucket is given back**, and leaves the chain. -/
theorem Ordered.freeTbf (ordered : st.Ordered ids) {tid : Nat}
    (real : 1 ≤ tid ∧ tid < st.filterListSize) : (st.freeTbf tid).Ordered (ids.erase tid) := by
  have none : tid ∉ ids.erase tid := fun mem =>
    (List.Nodup.mem_erase_iff ordered.distinct).mp mem |>.1 rfl
  have bucket := @freeTbf_bucket st tid real.1
  unfold Filters.freeTbf at bucket ⊢
  rw [if_neg (Nat.not_lt.mpr real.1)] at bucket ⊢
  obtain ⟨st', eq, chained, size, place⟩ : ∃ st',
      (if (st.filterList tid).next ≠ 0 then st.delFromTimer tid else st) = st' ∧
        st'.Chained (ids.erase tid) ∧ st'.filterListSize = st.filterListSize ∧ st'.p = st.p := by
    refine ⟨_, rfl, ?_⟩
    split_ifs with linked
    · have relinks := @relinks_delFromTimer st tid
      exact ⟨chained_delFromTimer ordered.toChained ((ordered.mem_iff tid).mpr linked),
        relinks.size, relinks.p⟩
    · rw [List.erase_of_not_mem fun mem => linked (ordered.on mem)]
      exact ⟨ordered.toChained, rfl, rfl⟩
  rw [eq] at bucket ⊢
  exact ordered.changed (chained.congr (setBucket_next tid _) (setBucket_prev tid _) rfl rfl) bucket
    size (place ▸ ordered.place) real.1 ((ordered.valid tid).congr rfl rfl rfl rfl)
    (fun i other => List.mem_erase_of_ne other) (iff_of_false none fun both => both.1 rfl)

/-- The search for a free bucket stays within the table. -/
theorem findFree_spec (size : 0 < st.filterListSize) {i p q : Nat} {found : Bool}
    (place : p < st.filterListSize) (search : st.findFree i p = (q, found)) :
    q < st.filterListSize ∧ (found = true → (st.filterList q).sid = 0) := by
  induction i generalizing p with
  | zero =>
      cases search
      exact ⟨place, nofun⟩
  | succ i ih =>
      rw [findFree] at search
      split_ifs at search with used
      · exact ih (Nat.mod_lt _ size) search
      · cases search
        exact ⟨place, fun _ => not_not.mp used⟩

/-- **A bucket is allocated**: it was free, so it is not on the chain. -/
theorem Ordered.newTbf (ordered : st.Ordered ids) (sid maxCredit rate : Int)
    (send : Option Server.Throttle.Direction) :
    (st.newTbf sid maxCredit rate send).1.Ordered ids ∧
      ((st.newTbf sid maxCredit rate send).2 = 0 ∧
          (st.newTbf sid maxCredit rate send).1.filterList = st.filterList ∨
        (st.newTbf sid maxCredit rate send).2 ≠ 0 ∧
          ∀ i, ((st.newTbf sid maxCredit rate send).1.filterList i).toBucket =
            if i = (st.newTbf sid maxCredit rate send).2 then .fresh sid maxCredit rate send
            else (st.filterList i).toBucket) := by
  have size : 0 < st.filterListSize := Nat.lt_of_le_of_lt (Nat.zero_le _) ordered.place
  unfold Filters.newTbf
  split
  · rename_i p search
    obtain ⟨place, -⟩ := findFree_spec size ordered.place search
    refine ⟨⟨ordered.toChained.congr (fun _ => rfl) (fun _ => rfl) rfl rfl, ordered.busy,
      ordered.valid, ordered.reserved, place⟩, .inl ⟨rfl, rfl⟩⟩
  · rename_i p search
    obtain ⟨place, free⟩ := findFree_spec size ordered.place search
    have unused := free rfl
    have real : p ≠ 0 := fun zero => ordered.reserved (zero ▸ unused)
    have out : p ∉ ids := fun mem =>
      ((ordered.busy p (Nat.one_le_iff_ne_zero.mpr real) place).mp mem).1 unused
    have ⟨next, prev⟩ := ordered.off p out
    have bucket (i : Nat) :
        ((st.setTbf p { toBucket := .fresh sid maxCredit rate send }).filterList i).toBucket =
          if i = p then .fresh sid maxCredit rate send else (st.filterList i).toBucket := by
      rw [setTbf_filterList]
      split <;> rfl
    refine ⟨ordered.changed (ordered.toChained.congr (fun i => ?_) (fun i => ?_) rfl rfl) bucket rfl
      place (Nat.one_le_iff_ne_zero.mpr real) (Bucket.valid_fresh ..)
      (fun i _ => Iff.rfl) (iff_of_false out fun both => both.2 rfl), .inr ⟨real, bucket⟩⟩
    · rw [setTbf_filterList]
      split
      · rename_i same
        rw [same, next]
      · rfl
    · rw [setTbf_filterList]
      split
      · rename_i same
        rw [same, prev]
      · rfl

theorem packetsOf_append (id : Nat) (departures more : List Departure) :
    packetsOf id (departures ++ more) = packetsOf id departures ++ packetsOf id more := by
  simp [packetsOf]

theorem packetsOf_one (id i : Nat) (handed : List Handed) :
    packetsOf i (handed.map (⟨id, ·⟩)) = if i = id then handed.map Handed.data else [] := by
  unfold packetsOf
  split_ifs with same
  · rw [List.filter_eq_self.mpr (by simp [same]), List.map_map]
    rfl
  · rw [List.filter_eq_nil_iff.mpr (by simp [Ne.symm same]), List.map_nil]

/-- Every bucket sent the front of what it accepted. -/
def Flows (st : Filters) (accepted sent : Nat → List (List UInt8)) : Prop :=
  ∀ id, (st.filterList id).Flow (accepted id) (sent id)

variable {accepted sent : Nat → List (List UInt8)}

/-- What running each of some buckets once does. -/
structure Runs (st : Filters) (ids : List Nat) (departures : List Departure) (st' : Filters) :
    Prop where
  bucket : ∀ id, (st'.filterList id).toBucket =
    if id ∈ ids then ((st.filterList id).run st.time).1 else (st.filterList id).toBucket
  packets : ∀ id, packetsOf id departures =
    if id ∈ ids then ((st.filterList id).run st.time).2.map Handed.data else []
  size : st'.filterListSize = st.filterListSize
  time : st'.time = st.time

theorem runs_one (i : Nat) : st.Runs [i] (st.tbfRunQueue i).2 (st.tbfRunQueue i).1 where
  bucket id := by
    rw [tbfRunQueue_bucket]
    by_cases same : id = i
    · rw [if_pos same, if_pos (List.mem_singleton.mpr same), same]
    · rw [if_neg same, if_neg (List.mem_singleton.not.mpr same)]
  packets id := by
    have handed : packetsOf id (st.tbfRunQueue i).2 = _ :=
      packetsOf_one i id ((st.filterList i).run st.time).2
    rw [handed]
    by_cases same : id = i
    · rw [if_pos same, if_pos (List.mem_singleton.mpr same), same]
    · rw [if_neg same, if_neg (List.mem_singleton.not.mpr same)]
  size := (tbfRunQueue_relinks i).1
  time := (tbfRunQueue_relinks i).2.2

/-- Different buckets are run one after the other. -/
theorem Runs.cons {i : Nat} {more : List Nat} {departures : List Departure} {st' : Filters}
    (other : i ∉ more) (rest : (st.tbfRunQueue i).1.Runs more departures st') :
    st.Runs (i :: more) ((st.tbfRunQueue i).2 ++ departures) st' := by
  have first := @runs_one st i
  have split (id : Nat) : id ∈ i :: more ↔ id = i ∨ id ∈ more := List.mem_cons
  refine ⟨fun id => ?_, fun id => ?_, rest.size.trans first.size, rest.time.trans first.time⟩
  · rw [rest.bucket, first.bucket, first.time]
    by_cases same : id = i
    · subst same
      simp [other]
    · simp [same]
  · rw [packetsOf_append, rest.packets, first.packets, first.bucket, first.time]
    by_cases same : id = i
    · subst same
      simp [other]
    · simp [same]

theorem Flows.runs (flows : st.Flows accepted sent) (valid : ∀ id, (st.filterList id).Valid)
    {departures : List Departure} {st' : Filters} (runs : st.Runs ids departures st') :
    st'.Flows accepted fun id => sent id ++ packetsOf id departures := by
  intro id
  dsimp only
  rw [runs.bucket, runs.packets]
  split_ifs
  · obtain ⟨k, drains⟩ := Bucket.run_spec (valid id) st.time
    have kept := @Bucket.keeps_run (st.filterList id).toBucket st.time
    exact ((flows id).refill st.time).drains drains ⟨kept.sid, kept.maxCredit, kept.rate, kept.send⟩
  · rw [List.append_nil]
    exact flows id

theorem Ordered.offer (ordered : st.Ordered ids) {id : Nat}
    (real : 1 ≤ id ∧ id < st.filterListSize) (used : (st.filterList id).sid ≠ 0)
    (data : List UInt8) :
    (if ((st.filterList id).offer data).2.2 = .queued ∧
          ((st.setBucket id ((st.filterList id).offer data).1).filterList id).next = 0
        then (st.setBucket id ((st.filterList id).offer data).1).addToTimer id
        else st.setBucket id ((st.filterList id).offer data).1).Ordered
      (if ((st.filterList id).offer data).2.2 = .queued ∧ id ∉ ids then ids ++ [id] else ids) := by
  have takes := Bucket.offer_spec (ordered.valid id) data
  have keeps := (@Bucket.keeps_offer (st.filterList id).toBucket data).sid
  have busy := ordered.busy id real.1 real.2
  generalize (st.filterList id).offer data = offered at *
  obtain ⟨f, handed, fate⟩ := offered
  dsimp only at *
  have put : (st.setBucket id f).Chained ids :=
    ordered.toChained.congr (setBucket_next id f) (setBucket_prev id f) rfl rfl
  have bucket := @setBucket_toBucket st id f
  have sid : f.sid ≠ 0 := keeps ▸ used
  rw [and_iff_right used] at busy
  cases fate with
  | sent =>
      obtain ⟨before, after, -⟩ := takes.sent rfl
      rw [if_neg (fun both => nomatch both.1), if_neg (fun both => nomatch both.1)]
      refine ordered.changed put bucket rfl ordered.place real.1 takes.valid (fun i _ => Iff.rfl) ?_
      rw [busy, and_iff_right sid]
      exact not_congr (iff_of_true (Bucket.queue_eq_nil.mp before) (Bucket.queue_eq_nil.mp after))
  | dropped =>
      obtain ⟨queue, -⟩ := takes.dropped rfl
      rw [if_neg (fun both => nomatch both.1), if_neg (fun both => nomatch both.1)]
      refine ordered.changed put bucket rfl ordered.place real.1 takes.valid (fun i _ => Iff.rfl) ?_
      rw [busy, and_iff_right sid, ← Bucket.length_queue f, queue, Bucket.length_queue]
  | queued =>
      obtain ⟨queue, -⟩ := takes.queued rfl
      have some : f.queued ≠ 0 := by
        rw [← Bucket.length_queue f, queue, List.length_append]
        exact Nat.succ_ne_zero _
      by_cases off : ((st.setBucket id f).filterList id).next = 0
      · have out : id ∉ ids := fun mem => put.on mem off
        have relinks := @relinks_addToTimer (st.setBucket id f) id
        rw [if_pos ⟨rfl, off⟩, if_pos ⟨rfl, out⟩]
        refine ordered.changed (chained_addToTimer put real out)
          (fun i => (relinks.toBucket i).trans (bucket i)) relinks.size (relinks.p ▸ ordered.place)
          real.1 takes.valid (fun i other => ?_) (iff_of_true (by simp) ⟨sid, some⟩)
        rw [List.mem_append, List.mem_singleton, or_iff_left other]
      · have on : id ∈ ids := (put.mem_iff id).mpr off
        rw [if_neg fun both => off both.2, if_neg fun both => both.2 on]
        exact ordered.changed put bucket rfl ordered.place real.1 takes.valid
          (fun i _ => Iff.rfl) (iff_of_true on ⟨sid, some⟩)

/-- The ids on the chain after a packet ran through an allocated bucket. -/
def chainAfter (st : Filters) (ids : List Nat) (id : Nat) (data : List UInt8) : List Nat :=
  let kept := if ((st.filterList id).run st.time).1.queued = 0 then ids.erase id else ids
  if (((st.tbfRunQueue id).1.filterList id).offer data).2.2 = .queued ∧ id ∉ kept then kept ++ [id]
  else kept

/-- **A packet runs through a bucket**, which is on the chain afterwards if it holds one. -/
theorem Ordered.tbfQueuePacket (ordered : st.Ordered ids) {id : Nat}
    (real : 1 ≤ id ∧ id < st.filterListSize) (data : List UInt8) :
    (st.tbfQueuePacket id data).1.Ordered
      (if (st.filterList id).sid = 0 then ids else st.chainAfter ids id data) := by
  unfold Filters.tbfQueuePacket
  rw [if_neg (by omega)]
  split_ifs with free
  · exact ordered
  · have bucket := @tbfRunQueue_bucket st id id
    rw [if_pos rfl] at bucket
    have kept := (@Bucket.keeps_run (st.filterList id).toBucket st.time).sid
    rw [← bucket] at kept
    have size := (@tbfRunQueue_relinks st id).1
    exact (ordered.tbfRunQueue real).offer ⟨real.1, size.symm ▸ real.2⟩ (kept ▸ free) data

theorem result_eq (size : Nat) (fate : Bucket.Fate) : result size fate = -1 ↔ fate = .dropped := by
  cases fate with
  | sent | queued => exact iff_of_false (by simp only [result]; omega) nofun
  | dropped => exact iff_of_true rfl rfl

/-- **The packet is sent, queued or dropped in its turn.** -/
theorem Flows.tbfQueuePacket (flows : st.Flows accepted sent)
    (valid : ∀ id, (st.filterList id).Valid) (id : Nat) (data : List UInt8) :
    (st.tbfQueuePacket id data).1.Flows (accept (st.tbfQueuePacket id data).2.2 id data accepted)
      fun i => sent i ++ packetsOf i (st.tbfQueuePacket id data).2.1 := by
  by_cases outside : st.filterListSize < id ∨ id < 1
  · unfold Filters.tbfQueuePacket
    rw [if_pos outside]
    simpa [accept, packetsOf] using flows
  by_cases free : (st.filterList id).sid = 0
  · unfold Filters.tbfQueuePacket
    rw [if_neg outside, if_pos free]
    simpa [accept, packetsOf] using flows
  have ran := flows.runs valid (@runs_one st id)
  have bucket := @tbfQueuePacket_bucket st id data outside free
  have own : ((st.tbfRunQueue id).1.filterList id).Valid := by
    obtain ⟨k, drains⟩ := Bucket.run_spec (valid id) st.time
    rw [tbfRunQueue_bucket, if_pos rfl]
    exact drains.valid
  have takes := Bucket.offer_spec own data
  have keeps := @Bucket.keeps_offer ((st.tbfRunQueue id).1.filterList id).toBucket data
  intro i
  have before := ran i
  dsimp only at before ⊢
  rw [bucket, tbfQueuePacket_result outside free, packetsOf_append, packetsOf_one,
    ← List.append_assoc]
  split_ifs with same
  · subst same
    have flow := before.takes takes ⟨keeps.sid, keeps.maxCredit, keeps.rate, keeps.send⟩
    have accepts : accept (Filters.result data.length
        (((st.tbfRunQueue i).1.filterList i).offer data).2.2) i data accepted i =
        if (((st.tbfRunQueue i).1.filterList i).offer data).2.2 = .dropped then accepted i
        else accepted i ++ [data] := by
      unfold accept
      simp only [result_eq]
      split_ifs
      · rfl
      · rw [Function.update_self]
    rw [accepts]
    exact flow
  · have accepts : accept (Filters.result data.length
        (((st.tbfRunQueue id).1.filterList id).offer data).2.2) id data accepted i =
          accepted i := by
      unfold accept
      split_ifs
      · rfl
      · rw [Function.update_of_ne same]
    rw [accepts, List.append_nil]
    exact before

def runAll : List Nat → Filters → Filters × List Departure
  | [], st => (st, [])
  | i :: more, st =>
      let (run, sent) := st.tbfRunQueue i
      let (done, others) := runAll more run
      (done, sent ++ others)

theorem runAll_spec {more : List Nat} (ordered : st.Ordered ids) (distinct : more.Nodup)
    (real : ∀ i ∈ more, 1 ≤ i ∧ i < st.filterListSize) :
    (∃ ids', (runAll more st).1.Ordered ids') ∧
      st.Runs more (runAll more st).2 (runAll more st).1 := by
  induction more generalizing st ids with
  | nil => exact ⟨⟨ids, ordered⟩, ⟨fun _ => rfl, fun _ => rfl, rfl, rfl⟩⟩
  | cons i more ih =>
      have ran := ordered.tbfRunQueue (real i List.mem_cons_self)
      have size := (@tbfRunQueue_relinks st i).1
      obtain ⟨own, others⟩ := List.nodup_cons.mp distinct
      obtain ⟨order, runs⟩ := ih ran others fun j mem =>
        size.symm ▸ real j (List.mem_cons_of_mem i mem)
      exact ⟨order, runs.cons own⟩

/-- The chain from bucket `i` on is walked to its end, each bucket once. -/
theorem walk_eq {kept more : List Nat} {i last count : Nat}
    (ordered : st.Ordered (kept ++ i :: more)) (enough : (i :: more).length ≤ count)
    (final : (i :: more).getLast? = some last) :
    walk last count i st = ((runAll (i :: more) st).1, (runAll (i :: more) st).2, i :: more) := by
  induction more generalizing kept i st count with
  | nil =>
      cases final
      obtain ⟨count, rfl⟩ := Nat.exists_eq_add_one_of_ne_zero (Nat.pos_iff_ne_zero.mp enough)
      rw [walk]
      dsimp only
      rw [if_neg fun goes => goes.2.2.1 rfl]
      simp only [runAll, List.append_nil]
  | cons m more ih =>
      obtain ⟨count, rfl⟩ := Nat.exists_eq_add_one_of_ne_zero
        (Nat.pos_iff_ne_zero.mp (Nat.lt_of_lt_of_le (Nat.succ_pos _) enough))
      have real := ordered.real i (by simp)
      have behind := ordered.real m (by simp)
      have next : (st.filterList i).next = m := by
        cases kept with
        | nil => exact @Ring.next_eq _ _ _ [] _ _ _ ordered.ring rfl
        | cons x kept => exact @Ring.next_eq _ _ _ (x :: kept) _ _ _ ordered.ring rfl
      have ran := ordered.tbfRunQueue real
      have front : i ∉ kept := fun mem =>
        (List.nodup_append.mp ordered.distinct).2.2 i mem i (by simp) rfl
      have own : i ∉ m :: more :=
        (List.nodup_cons.mp (List.nodup_append.mp ordered.distinct).2.1).1
      -- the bucket stays on the chain or leaves it, before those that are still to be run
      obtain ⟨kept', chain⟩ : ∃ kept', (if ((st.filterList i).run st.time).1.queued = 0
          then (kept ++ i :: m :: more).erase i else kept ++ i :: m :: more) =
          kept' ++ m :: more := by
        split_ifs
        · refine ⟨kept, ?_⟩
          rw [List.erase_append_right _ front, List.erase_cons_head]
        · exact ⟨kept ++ [i], by simp⟩
      rw [chain] at ran
      have running : 0 < (st.tbfRunQueue i).1.timerChain := by
        rw [ran.head]
        cases kept' with
        | nil => exact Int.natCast_pos.mpr behind.1
        | cons x kept' => exact Int.natCast_pos.mpr (ran.real x (by simp)).1
      have notLast : i ≠ last := fun same =>
        own (same ▸ List.mem_of_getLast? (by simpa using final))
      have goes : 0 < (st.tbfRunQueue i).1.timerChain ∧ (st.filterList i).next ≠ 0 ∧ i ≠ last ∧
          0 < count :=
        ⟨running, by omega, notLast,
          Nat.lt_of_lt_of_le (Nat.succ_pos _) (Nat.le_of_succ_le_succ enough)⟩
      have rest := ih ran (Nat.le_of_succ_le_succ enough) (by simpa using final)
      rw [walk]
      dsimp only
      rw [if_pos goes, next, rest]
      rfl

theorem tbfRunTimer_eq (ordered : st.Ordered ids) :
    st.tbfRunTimer = ((runAll ids st).1, (runAll ids st).2, ids) := by
  have head := ordered.head
  unfold tbfRunTimer
  cases ids with
  | nil =>
      rw [if_pos (by rw [head]; decide)]
      rfl
  | cons x l =>
      have first : st.timerChain = x := head
      rw [if_neg (by omega)]
      dsimp only
      rw [first, Int.toNat_natCast]
      have few : (x :: l).length ≤ st.filterListSize + 1 := by
        have sub : (x :: l) ⊆ List.range st.filterListSize := fun i mem =>
          List.mem_range.mpr (ordered.real i mem).2
        have short := (ordered.distinct.subperm sub).length_le
        rw [List.length_range] at short
        omega
      exact @walk_eq _ [] l x _ _ ordered few ordered.ring.getLast

/-- **The timer runs every bucket on the chain once.** -/
theorem tbfRunTimer_spec (ordered : st.Ordered ids) :
    (∃ ids', st.tbfRunTimer.1.Ordered ids') ∧ st.Runs ids st.tbfRunTimer.2.1 st.tbfRunTimer.1 ∧
      st.tbfRunTimer.2.2 = ids := by
  obtain ⟨order, runs⟩ := runAll_spec ordered ordered.distinct ordered.real
  rw [tbfRunTimer_eq ordered]
  exact ⟨order, runs, rfl⟩

end Filters

/-- What every run keeps. -/
theorem History.step_inv {h : History} {call : Call}
    (inv : ∃ ids, h.st.Ordered ids ∧ h.st.Flows h.accepted h.sent)
    (inRange : call.InRange h.st.filterListSize) :
    ∃ ids, (h.step call).st.Ordered ids ∧ (h.step call).st.Flows (h.step call).accepted
      (h.step call).sent := by
  obtain ⟨ids, ordered, flows⟩ := inv
  cases call with
  | newTbf sid maxCredit rate send =>
      obtain ⟨order, ⟨none, same⟩ | ⟨some, bucket⟩⟩ := ordered.newTbf sid maxCredit rate send
      · refine ⟨ids, order, fun id => ?_⟩
        simp only [History.step, none, if_true, same]
        exact flows id
      · refine ⟨ids, order, fun id => ?_⟩
        simp only [History.step, if_neg some]
        rw [bucket]
        split_ifs with own
        · rw [own, Function.update_self, Function.update_self]
          exact Bucket.flow_new rfl rfl
        · rw [Function.update_of_ne own, Function.update_of_ne own]
          exact flows id
  | freeTbf tid =>
      refine ⟨_, ordered.freeTbf inRange, fun id => ?_⟩
      simp only [History.step]
      rw [Filters.freeTbf_bucket inRange.1]
      split_ifs with own
      · rw [own]
        exact ⟨(flows tid).fifo, (flows tid).silent, (flows tid).counted⟩
      · exact flows id
  | tbfQueuePacket id data =>
      exact ⟨_, ordered.tbfQueuePacket inRange data, flows.tbfQueuePacket ordered.valid id data⟩
  | tbfRunTimer =>
      obtain ⟨⟨ids', order⟩, runs, -⟩ := Filters.tbfRunTimer_spec ordered
      exact ⟨ids', order, flows.runs ordered.valid runs⟩
  | time time =>
      exact ⟨ids, ⟨ordered.toChained.congr (fun _ => rfl) (fun _ => rfl) rfl rfl, ordered.busy,
        ordered.valid, ordered.reserved, ordered.place⟩, flows⟩

theorem run_inv {h : History}
    (run : system.ReachableUnder (fun h call => call.InRange h.st.filterListSize) h) :
    ∃ ids, h.st.Ordered ids ∧ h.st.Flows h.accepted h.sent := by
  refine run.invariant ?_ fun h call next inv inRange step => step ▸ h.step_inv inv inRange
  rintro _ ⟨numTbfs, time, some, rfl⟩
  have bucket (id : Nat) : (Filters.initTbf numTbfs time).filterList id =
      if id = 0 then { sid := -1 } else {} := by
    simp only [Filters.initTbf, Function.update_apply]
  have zero (id : Nat) : ((Filters.initTbf numTbfs time).filterList id).queued = 0 ∧
      ((Filters.initTbf numTbfs time).filterList id).next = 0 ∧
      ((Filters.initTbf numTbfs time).filterList id).prev = 0 ∧
      ((Filters.initTbf numTbfs time).filterList id).Valid := by
    rw [bucket]
    split_ifs
    all_goals exact ⟨rfl, rfl, rfl, (Bucket.valid_fresh 0 0 0 none).congr rfl rfl rfl rfl⟩
  refine ⟨[], ⟨⟨List.nodup_nil, ring_nil, rfl, nofun, fun id _ => ⟨(zero id).2.1, (zero id).2.2.1⟩⟩,
    fun id _ _ => iff_of_false List.not_mem_nil fun both => both.2 (zero id).1,
    fun id => (zero id).2.2.2, ?_, some⟩, fun id => ?_⟩
  · rw [bucket, if_pos rfl]
    decide
  · rw [bucket]
    split_ifs
    all_goals exact Bucket.flow_new rfl rfl

/-- **The scheduler.** In every run the timer chain is a ring of exactly the allocated buckets
that have packets, the next call of the timer runs each of them once, and every bucket has sent
its packets in the order they were accepted, those still queued being the others, with counters
that add up. -/
theorem scheduler_correct {h : History}
    (run : system.ReachableUnder (fun h call => call.InRange h.st.filterListSize) h) :
    ∃ ids : List Nat, ids.Nodup ∧
      Ring (fun i => (h.st.filterList i).next) (fun i => (h.st.filterList i).prev) ids ∧
      h.st.timerChain = (ids.head?.map Nat.cast).getD (-1) ∧
      (∀ id, id ∈ ids ↔ (1 ≤ id ∧ id < h.st.filterListSize) ∧
        (h.st.filterList id).sid ≠ 0 ∧ (h.st.filterList id).queue ≠ []) ∧
      (∀ id, id ∉ ids → (h.st.filterList id).next = 0 ∧ (h.st.filterList id).prev = 0) ∧
      h.st.tbfRunTimer.2.2 = ids ∧
      ∀ id, h.sent id <+: h.accepted id ∧
        ((h.st.filterList id).send ≠ none →
          h.accepted id = h.sent id ++ (h.st.filterList id).queue) ∧
        (h.st.filterList id).bQueued = (h.st.filterList id).bSent + (h.st.filterList id).bDropped +
          .ofNat (Bucket.bytes (h.st.filterList id).queue) := by
  obtain ⟨ids, ordered, flows⟩ := run_inv run
  obtain ⟨-, -, visits⟩ := Filters.tbfRunTimer_spec ordered
  refine ⟨ids, ordered.distinct, ordered.ring, ordered.head, fun id => ?_, ordered.off, visits,
    fun id => ⟨?_, fun some => (flows id).fifo (Option.isSome_iff_ne_none.mpr some),
      (flows id).counted⟩⟩
  · have some : (h.st.filterList id).queue ≠ [] ↔ (h.st.filterList id).queued ≠ 0 :=
      not_congr Bucket.queue_eq_nil
    rw [some]
    exact ⟨fun mem => ⟨ordered.real id mem,
      (ordered.busy id (ordered.real id mem).1 (ordered.real id mem).2).mp mem⟩,
      fun both => (ordered.busy id both.1.1 both.1.2).mpr both.2⟩
  · cases helper : (h.st.filterList id).send with
    | none =>
        rw [(flows id).silent helper]
        exact List.nil_prefix
    | some direction =>
        rw [(flows id).fifo (by rw [helper]; rfl)]
        exact List.prefix_append ..

/-- A bucket of 256 bytes is allocated and takes a packet of 300. -/
def waiting : History :=
  ((⟨.initTbf 3 0, fun _ => [], fun _ => []⟩ : History).step
    (.newTbf 5 256 128 (some .inward))).step (.tbfQueuePacket 1 (List.replicate 300 0))

theorem waiting_scheduled :
    (waiting.st.filterList 1).queued = 1 ∧ waiting.st.timerChain = 1 ∧
      ∃ ids : List Nat, ids.Nodup ∧
        Ring (fun i => (waiting.st.filterList i).next)
          (fun i => (waiting.st.filterList i).prev) ids ∧
        waiting.st.timerChain = (ids.head?.map Nat.cast).getD (-1) ∧
        (∀ id, id ∈ ids ↔ (1 ≤ id ∧ id < waiting.st.filterListSize) ∧
          (waiting.st.filterList id).sid ≠ 0 ∧ (waiting.st.filterList id).queue ≠ []) ∧
        (∀ id, id ∉ ids →
          (waiting.st.filterList id).next = 0 ∧ (waiting.st.filterList id).prev = 0) ∧
        waiting.st.tbfRunTimer.2.2 = ids ∧
        ∀ id, waiting.sent id <+: waiting.accepted id ∧
          ((waiting.st.filterList id).send ≠ none →
            waiting.accepted id = waiting.sent id ++ (waiting.st.filterList id).queue) ∧
          (waiting.st.filterList id).bQueued =
            (waiting.st.filterList id).bSent + (waiting.st.filterList id).bDropped +
              .ofNat (Bucket.bytes (waiting.st.filterList id).queue) :=
  ⟨by decide +kernel, by decide +kernel, scheduler_correct
    (.step (.tbfQueuePacket 1 (List.replicate 300 0))
      (.step (.newTbf 5 256 128 (some .inward)) (.initial ⟨3, 0, by decide, rfl⟩) trivial rfl)
      ⟨by decide, by decide⟩ rfl)⟩

end L2tpns.Shaping
