import L2tpns.Shaping.Filters
import L2tpns.Foundation.LinkedRing

/-! # The timer chain

The links through the buckets lay out a list of ids as a ring. Putting a bucket on the chain
appends its id, taking one off erases it (`L2tpns.Shaping.Filters.chained_addToTimer`,
`L2tpns.Shaping.Filters.chained_delFromTimer`).
-/

namespace L2tpns.Shaping

open Foundation.LinkedRing

namespace Filters

variable {st : Filters} {ids : List Nat}

theorem setTbf_filterList (id : Nat) (f : Tbft) (i : Nat) :
    (st.setTbf id f).filterList i = if i = id then f else st.filterList i :=
  Function.update_apply ..

@[simp] theorem setTbf_timerChain (id : Nat) (f : Tbft) :
    (st.setTbf id f).timerChain = st.timerChain := rfl

@[simp] theorem setTbf_size (id : Nat) (f : Tbft) :
    (st.setTbf id f).filterListSize = st.filterListSize := rfl

@[simp] theorem setNext_next (id next i : Nat) : ((st.setNext id next).filterList i).next =
    if i = id then next else (st.filterList i).next := by
  rw [setNext, setTbf_filterList]
  split <;> rfl

@[simp] theorem setNext_prev (id next i : Nat) :
    ((st.setNext id next).filterList i).prev = (st.filterList i).prev := by
  rw [setNext, setTbf_filterList]
  split
  · rename_i same
    rw [same]
  · rfl

@[simp] theorem setPrev_prev (id prev i : Nat) : ((st.setPrev id prev).filterList i).prev =
    if i = id then prev else (st.filterList i).prev := by
  rw [setPrev, setTbf_filterList]
  split <;> rfl

@[simp] theorem setPrev_next (id prev i : Nat) :
    ((st.setPrev id prev).filterList i).next = (st.filterList i).next := by
  rw [setPrev, setTbf_filterList]
  split
  · rename_i same
    rw [same]
  · rfl

@[simp] theorem setBucket_next (id : Nat) (f : Bucket) (i : Nat) :
    ((st.setBucket id f).filterList i).next = (st.filterList i).next := by
  rw [setBucket, setTbf_filterList]
  split
  · rename_i same
    rw [same]
  · rfl

@[simp] theorem setBucket_prev (id : Nat) (f : Bucket) (i : Nat) :
    ((st.setBucket id f).filterList i).prev = (st.filterList i).prev := by
  rw [setBucket, setTbf_filterList]
  split
  · rename_i same
    rw [same]
  · rfl

theorem setBucket_toBucket (id : Nat) (f : Bucket) (i : Nat) :
    ((st.setBucket id f).filterList i).toBucket =
      if i = id then f else (st.filterList i).toBucket := by
  rw [setBucket, setTbf_filterList]
  split <;> rfl

/-- What changes only links. -/
structure Relinks (st st' : Filters) : Prop where
  toBucket : ∀ i, (st'.filterList i).toBucket = (st.filterList i).toBucket
  size : st'.filterListSize = st.filterListSize
  p : st'.p = st.p
  time : st'.time = st.time

theorem relinks_setNext (id next : Nat) : st.Relinks (st.setNext id next) := by
  refine ⟨fun i => ?_, rfl, rfl, rfl⟩
  rw [setNext, setTbf_filterList]
  split
  · rename_i same
    rw [same]
  · rfl

theorem relinks_setPrev (id prev : Nat) : st.Relinks (st.setPrev id prev) := by
  refine ⟨fun i => ?_, rfl, rfl, rfl⟩
  rw [setPrev, setTbf_filterList]
  split
  · rename_i same
    rw [same]
  · rfl

theorem relinks_head (chain : Int) : st.Relinks { st with timerChain := chain } :=
  ⟨fun _ => rfl, rfl, rfl, rfl⟩

theorem Relinks.refl (st : Filters) : st.Relinks st := ⟨fun _ => rfl, rfl, rfl, rfl⟩

theorem Relinks.trans {st' st'' : Filters} (first : st.Relinks st') (second : st'.Relinks st'') :
    st.Relinks st'' :=
  ⟨fun i => (second.toBucket i).trans (first.toBucket i), second.size.trans first.size,
    second.p.trans first.p, second.time.trans first.time⟩

theorem relinks_addToTimer (id : Nat) : st.Relinks (st.addToTimer id) := by
  unfold addToTimer
  split_ifs
  · exact ((relinks_setNext ..).trans (relinks_setPrev ..)).trans (relinks_head _)
  · exact (((relinks_setNext ..).trans (relinks_setPrev ..)).trans (relinks_setNext ..)).trans
      (relinks_setPrev ..)

theorem relinks_delFromTimer (id : Nat) : st.Relinks (st.delFromTimer id) := by
  have off {st : Filters} : st.Relinks ((st.setNext id 0).setPrev id 0) :=
    (relinks_setNext ..).trans (relinks_setPrev ..)
  unfold delFromTimer
  dsimp only
  split_ifs
  · exact off
  · exact (relinks_head _).trans off
  · exact (((relinks_setPrev ..).trans (relinks_setNext ..)).trans (relinks_head _)).trans off
  · exact ((relinks_setPrev ..).trans (relinks_setNext ..)).trans off

/-- The buckets on the timer chain are those of a list, in its order. -/
structure Chained (st : Filters) (ids : List Nat) : Prop where
  distinct : ids.Nodup
  ring : Ring (fun i => (st.filterList i).next) (fun i => (st.filterList i).prev) ids
  head : st.timerChain = (ids.head?.map Nat.cast).getD (-1)
  real : ∀ id ∈ ids, 1 ≤ id ∧ id < st.filterListSize
  off : ∀ id ∉ ids, (st.filterList id).next = 0 ∧ (st.filterList id).prev = 0

theorem Chained.on (chained : st.Chained ids) {id : Nat} (mem : id ∈ ids) :
    (st.filterList id).next ≠ 0 := by
  have real : 1 ≤ (st.filterList id).next ∧ _ := chained.real _ (chained.ring.next_mem mem)
  omega

theorem Chained.mem_iff (chained : st.Chained ids) (id : Nat) :
    id ∈ ids ↔ (st.filterList id).next ≠ 0 :=
  ⟨chained.on, fun linked => by
    by_contra off
    exact linked (chained.off id off).1⟩

theorem Chained.congr {st' : Filters} (chained : st.Chained ids)
    (next : ∀ i, (st'.filterList i).next = (st.filterList i).next)
    (prev : ∀ i, (st'.filterList i).prev = (st.filterList i).prev)
    (head : st'.timerChain = st.timerChain) (size : st'.filterListSize = st.filterListSize) :
    st'.Chained ids where
  distinct := chained.distinct
  ring := chained.ring.congr (fun i _ => next i) fun i _ => prev i
  head := head.trans chained.head
  real id mem := size ▸ chained.real id mem
  off id out := next id ▸ prev id ▸ chained.off id out

/-- **A bucket is put at the end of the chain.** -/
theorem chained_addToTimer (chained : st.Chained ids) {id : Nat}
    (real : 1 ≤ id ∧ id < st.filterListSize) (out : id ∉ ids) :
    (st.addToTimer id).Chained (ids ++ [id]) := by
  have distinct : (ids ++ [id]).Nodup := List.nodup_append.mpr
    ⟨chained.distinct, List.nodup_singleton id, fun i mem j last same =>
      out (List.mem_singleton.mp last ▸ same ▸ mem)⟩
  have size := (@relinks_addToTimer st id).size
  have members : ∀ i ∈ ids ++ [id], 1 ≤ i ∧ i < (st.addToTimer id).filterListSize := by
    intro i mem
    rw [size]
    rcases List.mem_append.mp mem with old | new
    · exact chained.real i old
    · exact List.mem_singleton.mp new ▸ real
  cases ids with
  | nil =>
      have empty : st.timerChain = -1 := chained.head
      unfold addToTimer at members ⊢
      rw [if_pos empty] at members ⊢
      refine ⟨distinct, ring_singleton (by simp) (by simp), rfl, members, fun i off => ?_⟩
      have other : i ≠ id := by simpa using off
      simpa [other] using chained.off i List.not_mem_nil
  | cons x l =>
      have head : st.timerChain = x := chained.head
      have other : x ≠ id := fun same => out (same ▸ List.mem_cons_self)
      have last : (st.filterList x).prev ≠ id := fun same =>
        out (same ▸ (chained.ring.next_prev List.mem_cons_self).1)
      unfold addToTimer at members ⊢
      rw [if_neg (by omega)] at members ⊢
      simp only [head, Int.toNat_natCast, setPrev_prev, setNext_prev, if_neg other] at members ⊢
      refine ⟨distinct, ?_, head, members, fun i off => ?_⟩
      · refine chained.ring.insert chained.distinct out ?_ ?_ ?_ ?_ ?_ ?_
        · simp [last.symm]
        · simp
        · intro y new old
          simp [new, old]
        · simp [other.symm]
        · simp
        · intro y new old
          simp [new, old]
      · have new : i ≠ id := fun same => off (by simp [same])
        have old : i ∉ x :: l := fun mem => off (List.mem_append_left _ mem)
        have first : i ≠ x := fun same => old (same ▸ List.mem_cons_self)
        have final : i ≠ (st.filterList x).prev := fun same =>
          old (same ▸ (chained.ring.next_prev List.mem_cons_self).1)
        simpa [new, first, final] using chained.off i old

/-- The fields after a bucket with others around it is taken off. -/
theorem delFromTimer_fields {id : Nat} (next : (st.filterList id).next ≠ id)
    (prev : (st.filterList id).prev ≠ id) :
    (∀ i, ((st.delFromTimer id).filterList i).next =
      if i = id then 0 else if i = (st.filterList id).prev then (st.filterList id).next
      else (st.filterList i).next) ∧
    (∀ i, ((st.delFromTimer id).filterList i).prev =
      if i = id then 0 else if i = (st.filterList id).next then (st.filterList id).prev
      else (st.filterList i).prev) ∧
    (st.delFromTimer id).timerChain =
      if st.timerChain = id then ((st.filterList id).next : Int) else st.timerChain := by
  unfold delFromTimer
  rw [if_neg next]
  simp only [setPrev_prev, setPrev_next, setNext_next, if_neg (Ne.symm next), if_neg (Ne.symm prev)]
  refine ⟨fun i => ?_, fun i => ?_, ?_⟩
  · split_ifs <;> simp_all
  · split_ifs <;> simp_all
  · split_ifs <;> simp_all [setPrev, setNext]

/-- **A bucket is taken off the chain.** -/
theorem chained_delFromTimer (chained : st.Chained ids) {id : Nat} (mem : id ∈ ids) :
    (st.delFromTimer id).Chained (ids.erase id) := by
  have size := (@relinks_delFromTimer st id).size
  have members : ∀ i ∈ ids.erase id, 1 ≤ i ∧ i < (st.delFromTimer id).filterListSize :=
    fun i there => size ▸ chained.real i (List.mem_of_mem_erase there)
  obtain ⟨before, after, rfl⟩ := List.append_of_mem mem
  have front : id ∉ before := fun there =>
    (List.nodup_append.mp chained.distinct).2.2 id there id (by simp) rfl
  have erased : (before ++ id :: after).erase id = before ++ after := by
    rw [List.erase_append_right _ front, List.erase_cons_head]
  have distinct := chained.distinct.erase id
  rw [erased] at members distinct ⊢
  by_cases alone : before ++ after = []
  · obtain ⟨rfl, rfl⟩ := List.append_eq_nil_iff.mp alone
    have next : (st.filterList id).next = id := (chained.ring.forward id rfl).1
    have head : st.timerChain = id := chained.head
    unfold delFromTimer
    rw [if_pos next, if_neg (not_not.mpr head)]
    refine ⟨distinct, ring_nil, rfl, nofun, fun i _ => ?_⟩
    by_cases own : i = id
    · simp [own]
    · simpa [own] using chained.off i (by simpa using own)
  · have next : (st.filterList id).next ≠ id := chained.ring.next_ne chained.distinct alone
    have ⟨prevMem, around⟩ := chained.ring.next_prev mem
    have nextMem := chained.ring.next_mem mem
    have prev : (st.filterList id).prev ≠ id := fun same => next (by simpa [same] using around)
    obtain ⟨nextEq, prevEq, headEq⟩ := delFromTimer_fields next prev
    refine ⟨distinct, ?_, ?_, members, fun i off => ?_⟩
    · refine chained.ring.remove chained.distinct alone ?_ ?_ ?_ ?_
      · simp [nextEq, prev]
      · intro i own other
        simp [nextEq, own, other]
      · simp [prevEq, next]
      · intro i own other
        simp [prevEq, own, other]
    · rw [headEq, chained.head]
      cases before with
      | nil =>
          have follows : (st.filterList id).next = _ :=
            @Ring.next_eq _ _ _ [] _ _ _ chained.ring rfl
          cases after with
          | nil => exact absurd rfl alone
          | cons y l => simp [follows]
      | cons x l =>
          have other : (x : Int) ≠ id := fun same =>
            front (Int.ofNat_inj.mp same ▸ List.mem_cons_self)
          exact if_neg other
    · by_cases own : i = id
      · simp [nextEq, prevEq, own]
      · have out : i ∉ before ++ id :: after := by
          simpa [own] using off
        have notNext : i ≠ (st.filterList id).next := fun same => out (same ▸ nextMem)
        have notPrev : i ≠ (st.filterList id).prev := fun same => out (same ▸ prevMem)
        simpa [nextEq, prevEq, own, notNext, notPrev] using chained.off i out

theorem tbfRunQueue_bucket (id i : Nat) :
    ((st.tbfRunQueue id).1.filterList i).toBucket =
      if i = id then ((st.filterList id).run st.time).1 else (st.filterList i).toBucket := by
  have put := @setBucket_toBucket st id ((st.filterList id).run st.time).1 i
  unfold tbfRunQueue
  dsimp only
  split_ifs at put ⊢
  all_goals first | exact put | exact (relinks_delFromTimer _).toBucket i |>.trans put

theorem tbfRunQueue_relinks (id : Nat) :
    (st.tbfRunQueue id).1.filterListSize = st.filterListSize ∧
      (st.tbfRunQueue id).1.p = st.p ∧ (st.tbfRunQueue id).1.time = st.time := by
  unfold tbfRunQueue
  dsimp only
  split_ifs
  · exact ⟨rfl, rfl, rfl⟩
  · have same := @relinks_delFromTimer (st.setBucket id ((st.filterList id).run st.time).1) id
    exact ⟨same.size, same.p, same.time⟩
  · exact ⟨rfl, rfl, rfl⟩

theorem freeTbf_bucket {tid : Nat} (real : 1 ≤ tid) (i : Nat) :
    ((st.freeTbf tid).filterList i).toBucket =
      if i = tid then { (st.filterList tid).toBucket with sid := 0 }
      else (st.filterList i).toBucket := by
  have relinks : st.Relinks (if (st.filterList tid).next ≠ 0 then st.delFromTimer tid else st) := by
    split_ifs
    · exact relinks_delFromTimer tid
    · exact .refl st
  unfold freeTbf
  rw [if_neg (Nat.not_lt.mpr real)]
  dsimp only
  rw [setBucket_toBucket, relinks.toBucket, relinks.toBucket]

theorem tbfQueuePacket_bucket {id : Nat} {data : List UInt8}
    (inside : ¬(st.filterListSize < id ∨ id < 1)) (allocated : (st.filterList id).sid ≠ 0)
    (i : Nat) :
    ((st.tbfQueuePacket id data).1.filterList i).toBucket =
      if i = id then (((st.tbfRunQueue id).1.filterList id).offer data).1
      else ((st.tbfRunQueue id).1.filterList i).toBucket := by
  have put := @setBucket_toBucket (st.tbfRunQueue id).1 id
    (((st.tbfRunQueue id).1.filterList id).offer data).1 i
  unfold tbfQueuePacket
  rw [if_neg inside, if_neg allocated]
  dsimp only
  rw [← put]
  split_ifs
  · exact (relinks_addToTimer _).toBucket i
  · rfl

theorem tbfQueuePacket_result {id : Nat} {data : List UInt8}
    (inside : ¬(st.filterListSize < id ∨ id < 1)) (allocated : (st.filterList id).sid ≠ 0) :
    (st.tbfQueuePacket id data).2 = ((st.tbfRunQueue id).2 ++
        (((st.tbfRunQueue id).1.filterList id).offer data).2.1.map (⟨id, ·⟩),
      result data.length (((st.tbfRunQueue id).1.filterList id).offer data).2.2) := by
  unfold tbfQueuePacket
  rw [if_neg inside, if_neg allocated]

end Filters

end L2tpns.Shaping
