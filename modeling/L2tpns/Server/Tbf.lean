import Mathlib.Algebra.Group.Int.Defs
import Mathlib.Algebra.GroupWithZero.Nat
import Mathlib.Data.List.Nodup
import Mathlib.Logic.Function.Basic

/-! # Token bucket filters

A bucket belongs to a session in one direction and holds packets until there is credit for
them. Buckets are taken in turn from the ones that belong to no session; one that is given
back keeps its packets, but is off the timer list and cleared when it is taken again. What is
sent is what was queued since the bucket was taken.
-/

namespace L2tpns.Server.Throttle

open Function

/-- `send_ipin` or `send_ipout`. -/
inductive Direction where
  | inward
  | outward
deriving DecidableEq, Repr

/-- A packet with what else is known of it. -/
structure Packet (α : Type) where
  size : Nat
  data : α

structure Tbf (α : Type) where
  /-- The session, or 0. -/
  sid : Nat
  credit : Int
  lasttime : Int
  maxCredit : Int
  rate : Int
  send : Option Direction
  /-- The packets that are queued, from the oldest on. -/
  queue : List (Packet α)

/-- All buckets; `size` is the length of the list. -/
structure Tbfs (α : Type) where
  size : Nat
  bucket : Nat → Tbf α
  /-- The ids on the timer list, from its head on. -/
  timerChain : List Nat
  /-- Where the search for a free bucket goes on. -/
  p : Nat
  time : Int

/-- A packet that a bucket sends. -/
structure Sent (α : Type) where
  sid : Nat
  direction : Direction
  data : α

variable {α : Type}

def Tbf.empty : Tbf α := ⟨0, 0, 0, 0, 0, none, []⟩

/-- The credit at a time, which is in tenths of a second; what is earned is computed in 32 bits. -/
def Tbf.available (f : Tbf α) (time : Int) : Int :=
  min ((f.credit + (time - f.lasttime) * f.rate % 2 ^ 32 / 10).bmod (2 ^ 32)) f.maxCredit

def tbfMaxQueue : Nat := 2

def tbfMaxSize : Nat := 3000

namespace Tbfs

variable (tbfs : Tbfs α)

def setBucket (id : Nat) (tbf : Tbf α) : Tbfs α :=
  { tbfs with bucket := Function.update tbfs.bucket id tbf }

def addToTimer (id : Nat) : Tbfs α := { tbfs with timerChain := tbfs.timerChain ++ [id] }

def delFromTimer (id : Nat) : Tbfs α := { tbfs with timerChain := tbfs.timerChain.erase id }

/-- Free a bucket for re-use. -/
def freeTbf (tid : Nat) : Tbfs α :=
  if tid < 1 then tbfs
  else
    let off := if tid ∈ tbfs.timerChain then tbfs.delFromTimer tid else tbfs
    off.setBucket tid { off.bucket tid with sid := 0 }

/-- Look at `i` buckets for a free one, from `p` on. -/
def findFree : Nat → Nat → Nat × Option Nat
  | 0, p => (p, none)
  | i + 1, p =>
      if (tbfs.bucket p).sid ≠ 0 then findFree i ((p + 1) % tbfs.size) else (p, some p)

/-- Allocate a bucket; 0 if there is none. -/
def newTbf (sid : Nat) (maxCredit rate : Int) (send : Direction) : Tbfs α × Nat :=
  match tbfs.findFree tbfs.size tbfs.p with
  | (p, none) => ({ tbfs with p := p }, 0)
  | (p, some id) =>
      ({ tbfs.setBucket id ⟨sid, maxCredit, 0, maxCredit, rate, some send, []⟩ with p := p }, id)

/-- Send packets as long as there is credit. -/
def sendQueued (sid : Nat) (send : Option Direction) :
    Int → List (Packet α) → Int × List (Packet α) × List (Sent α)
  | credit, [] => (credit, [], [])
  | credit, packet :: rest =>
      if packet.size ≤ credit then
        let (left, queue, sent) := sendQueued sid send (credit - packet.size) rest
        (left, queue, (send.map fun direction => ⟨sid, direction, packet.data⟩).toList ++ sent)
      else (credit, packet :: rest, [])

/-- Send queued packets if possible. -/
def tbfRunQueue (id : Nat) : Tbfs α × List (Sent α) :=
  let f := tbfs.bucket id
  let (left, queue, sent) := sendQueued f.sid f.send (f.available tbfs.time) f.queue
  let run := tbfs.setBucket id { f with credit := left, lasttime := tbfs.time, queue := queue }
  if queue = [] ∧ id ∈ tbfs.timerChain then (run.delFromTimer id, sent) else (run, sent)

/-- Run a packet through a bucket: it is sent, queued or dropped. -/
def tbfQueuePacket (id : Nat) (packet : Packet α) : Tbfs α × List (Sent α) :=
  if tbfs.size < id ∨ id < 1 then (tbfs, [])
  else if (tbfs.bucket id).sid = 0 then (tbfs, [])
  else
    let (run, sent) := tbfs.tbfRunQueue id
    let f := run.bucket id
    if f.queue = [] ∧ packet.size < f.credit then
      (run.setBucket id { f with credit := f.credit - packet.size },
        sent ++ (f.send.map fun direction => ⟨f.sid, direction, packet.data⟩).toList)
    else if tbfMaxQueue ≤ f.queue.length then (run, sent)
    else if tbfMaxSize ≤ packet.size then (run, sent)
    else
      let queued := run.setBucket id { f with queue := f.queue ++ [packet] }
      if id ∈ queued.timerChain then (queued, sent) else (queued.addToTimer id, sent)

/-- Walk the timer list. -/
def tbfRunTimer : Tbfs α × List (Sent α) :=
  tbfs.timerChain.foldl (fun state id =>
    let (run, sent) := state.1.tbfRunQueue id
    (run, state.2 ++ sent)) (tbfs, [])

variable {tbfs}

@[simp] theorem setBucket_bucket (id : Nat) (tbf : Tbf α) :
    (tbfs.setBucket id tbf).bucket = Function.update tbfs.bucket id tbf := rfl

theorem freeTbf_sid (tid : Nat) (real : 1 ≤ tid) (id : Nat) :
    ((tbfs.freeTbf tid).bucket id).sid = if id = tid then 0 else (tbfs.bucket id).sid := by
  rw [freeTbf, if_neg (Nat.not_lt.mpr real)]
  have same : (if tid ∈ tbfs.timerChain then tbfs.delFromTimer tid else tbfs).bucket =
      tbfs.bucket := by
    split <;> rfl
  dsimp only
  rw [setBucket_bucket, same]
  by_cases here : id = tid
  · rw [here, update_self, if_pos rfl]
  · rw [update_of_ne here, if_neg here]

theorem findFree_free {i p q id : Nat} (found : tbfs.findFree i p = (q, some id)) :
    (tbfs.bucket id).sid = 0 := by
  induction i generalizing p with
  | zero => exact nomatch congrArg Prod.snd found
  | succ i ih =>
      rw [findFree] at found
      split at found
      · exact ih found
      · rename_i free
        have same := Option.some.inj (congrArg Prod.snd found)
        rw [← same]
        exact not_not.mp free

/-- What allocating a bucket does: there is none, or one that was free is taken. -/
inductive Allocates (tbfs : Tbfs α) (sid : Nat) (maxCredit rate : Int) (send : Direction) :
    Tbfs α × Nat → Prop where
  | none (p : Nat) : Allocates tbfs sid maxCredit rate send ({ tbfs with p := p }, 0)
  | some (p id : Nat) (free : (tbfs.bucket id).sid = 0) :
      Allocates tbfs sid maxCredit rate send
        ({ tbfs.setBucket id ⟨sid, maxCredit, 0, maxCredit, rate, some send, []⟩ with p := p }, id)

theorem newTbf_allocates (sid : Nat) (maxCredit rate : Int) (send : Direction) :
    Allocates tbfs sid maxCredit rate send (tbfs.newTbf sid maxCredit rate send) := by
  rw [newTbf]
  split
  · exact .none _
  · rename_i found
    exact .some _ _ (findFree_free found)

/-- A property holds of what is in the buckets that belong to a session, and those on the timer
list do. -/
structure Fit (property : Nat → Option Direction → α → Prop) (tbfs : Tbfs α) : Prop where
  queued : ∀ id, (tbfs.bucket id).sid ≠ 0 → ∀ packet ∈ (tbfs.bucket id).queue,
    property (tbfs.bucket id).sid (tbfs.bucket id).send packet.data
  running : ∀ id ∈ tbfs.timerChain, (tbfs.bucket id).sid ≠ 0
  once : tbfs.timerChain.Nodup

/-- The property holds of what is sent. -/
def Fits (property : Nat → Option Direction → α → Prop) (sent : List (Sent α)) : Prop :=
  ∀ packet ∈ sent, property packet.sid (some packet.direction) packet.data

variable {property : Nat → Option Direction → α → Prop}

theorem Fits.append {sent more : List (Sent α)} (first : Fits property sent)
    (second : Fits property more) : Fits property (sent ++ more) := fun packet member =>
  (List.mem_append.mp member).elim (first packet) (second packet)

theorem fits_send {sid : Nat} {send : Option Direction} {data : α}
    (holds : property sid send data) :
    Fits property (send.map fun direction => (⟨sid, direction, data⟩ : Sent α)).toList := by
  intro packet member
  cases send with
  | none => exact nomatch member
  | some direction =>
      rw [List.mem_singleton.mp member]
      exact holds

theorem sendQueued_fits {sid : Nat} {send : Option Direction} (credit : Int)
    (queue : List (Packet α)) (holds : ∀ packet ∈ queue, property sid send packet.data) :
    (∀ packet ∈ (sendQueued sid send credit queue).2.1, packet ∈ queue) ∧
      Fits property (sendQueued sid send credit queue).2.2 := by
  induction queue generalizing credit with
  | nil => exact ⟨fun _ => id, nofun⟩
  | cons first rest ih =>
      rw [sendQueued]
      split
      · obtain ⟨left, sent⟩ := ih (credit - first.size) fun packet member =>
          holds packet (List.mem_cons_of_mem _ member)
        refine ⟨fun packet member => List.mem_cons_of_mem _ (left packet member), ?_⟩
        exact (fits_send (holds first (List.mem_cons_self ..))).append sent
      · exact ⟨fun _ => id, nofun⟩

theorem tbfRunQueue_kept (id other : Nat) :
    ((tbfs.tbfRunQueue id).1.bucket other).sid = (tbfs.bucket other).sid ∧
      ((tbfs.tbfRunQueue id).1.bucket other).send = (tbfs.bucket other).send := by
  have kept : ∀ (tbf : Tbf α), tbf.sid = (tbfs.bucket id).sid → tbf.send = (tbfs.bucket id).send →
      (update tbfs.bucket id tbf other).sid = (tbfs.bucket other).sid ∧
        (update tbfs.bucket id tbf other).send = (tbfs.bucket other).send := by
    intro tbf sid send
    by_cases here : other = id
    · rw [here, update_self]
      exact ⟨sid, send⟩
    · rw [update_of_ne here]
      exact ⟨rfl, rfl⟩
  rw [tbfRunQueue]
  dsimp only
  split
  · exact kept _ rfl rfl
  · exact kept _ rfl rfl

namespace Fit

theorem setBucket (fit : Fit property tbfs) (id : Nat) {tbf : Tbf α}
    (used : (tbfs.bucket id).sid ≠ 0 → tbf.sid ≠ 0 ∨ id ∉ tbfs.timerChain)
    (queued : tbf.sid ≠ 0 → ∀ packet ∈ tbf.queue, property tbf.sid tbf.send packet.data) :
    Fit property (tbfs.setBucket id tbf) where
  queued other real packet member := by
    rw [setBucket_bucket] at real member ⊢
    by_cases here : other = id
    · rw [here, update_self] at real member ⊢
      exact queued real packet member
    · rw [update_of_ne here] at real member ⊢
      exact fit.queued other real packet member
  running other member := by
    rw [setBucket_bucket]
    by_cases here : other = id
    · rw [here, update_self]
      rw [here] at member
      exact (used (fit.running id member)).resolve_right fun off => off member
    · rw [update_of_ne here]
      exact fit.running other member
  once := fit.once

theorem delFromTimer (fit : Fit property tbfs) (id : Nat) :
    Fit property (tbfs.delFromTimer id) where
  queued := fit.queued
  running other member := fit.running other (List.mem_of_mem_erase member)
  once := fit.once.erase id

theorem freeTbf (fit : Fit property tbfs) (tid : Nat) : Fit property (tbfs.freeTbf tid) := by
  rw [Tbfs.freeTbf]
  split
  · exact fit
  · dsimp only
    split
    · refine (fit.delFromTimer tid).setBucket tid (fun _ => .inr ?_) fun used => absurd rfl used
      exact fun member => (fit.once.mem_erase_iff.mp member).1 rfl
    · rename_i off
      exact fit.setBucket tid (fun _ => .inr off) fun used => absurd rfl used

theorem newTbf (fit : Fit property tbfs) (sid : Nat) (maxCredit rate : Int) (send : Direction) :
    Fit property (tbfs.newTbf sid maxCredit rate send).1 := by
  have allocates := @newTbf_allocates α tbfs sid maxCredit rate send
  generalize tbfs.newTbf sid maxCredit rate send = result at allocates ⊢
  cases allocates with
  | none p => exact ⟨fit.queued, fit.running, fit.once⟩
  | some p id free =>
      have set := @setBucket α tbfs property fit id
        ⟨sid, maxCredit, 0, maxCredit, rate, some send, []⟩ (fun used => absurd free used) nofun
      exact ⟨set.queued, set.running, set.once⟩

/-- A bucket sends what is queued in it. -/
theorem tbfRunQueue (fit : Fit property tbfs) {id : Nat} (used : (tbfs.bucket id).sid ≠ 0) :
    Fit property (tbfs.tbfRunQueue id).1 ∧ Fits property (tbfs.tbfRunQueue id).2 := by
  obtain ⟨left, sent⟩ := sendQueued_fits ((tbfs.bucket id).available tbfs.time)
    (tbfs.bucket id).queue (fit.queued id used)
  rw [Tbfs.tbfRunQueue]
  dsimp only
  generalize sendQueued (tbfs.bucket id).sid (tbfs.bucket id).send
    ((tbfs.bucket id).available tbfs.time) (tbfs.bucket id).queue = result at left sent ⊢
  obtain ⟨credit', queue, packets⟩ := result
  have run : Fit property (tbfs.setBucket id { tbfs.bucket id with
      credit := credit', lasttime := tbfs.time, queue := queue }) :=
    fit.setBucket id (fun _ => .inl used) fun _ packet member =>
      fit.queued id used packet (left packet member)
  dsimp only
  split
  · exact ⟨run.delFromTimer id, sent⟩
  · exact ⟨run, sent⟩

theorem addToTimer (fit : Fit property tbfs) {id : Nat} (used : (tbfs.bucket id).sid ≠ 0)
    (off : id ∉ tbfs.timerChain) : Fit property (tbfs.addToTimer id) where
  queued := fit.queued
  running other member := by
    rcases List.mem_append.mp member with old | new
    · exact fit.running other old
    · rw [List.mem_singleton.mp new]
      exact used
  once := List.nodup_append.mpr ⟨fit.once, List.nodup_singleton id, fun other old new member =>
    fun same => off (List.mem_singleton.mp member ▸ same ▸ old)⟩

theorem tbfQueuePacket (fit : Fit property tbfs) {id : Nat} {packet : Packet α}
    (fits : ¬ (tbfs.size < id ∨ id < 1) → (tbfs.bucket id).sid ≠ 0 →
      property (tbfs.bucket id).sid (tbfs.bucket id).send packet.data) :
    Fit property (tbfs.tbfQueuePacket id packet).1 ∧
      Fits property (tbfs.tbfQueuePacket id packet).2 := by
  rw [Tbfs.tbfQueuePacket]
  by_cases outside : tbfs.size < id ∨ id < 1
  · rw [if_pos outside]
    exact ⟨fit, nofun⟩
  rw [if_neg outside]
  by_cases unused : (tbfs.bucket id).sid = 0
  · rw [if_pos unused]
    exact ⟨fit, nofun⟩
  rw [if_neg unused]
  have holds := fits outside unused
  obtain ⟨run, sent⟩ := fit.tbfRunQueue unused
  obtain ⟨sid, send⟩ := @tbfRunQueue_kept α tbfs id id
  generalize tbfs.tbfRunQueue id = result at run sent sid send ⊢
  obtain ⟨ran, packets⟩ := result
  dsimp only at run sent sid send ⊢
  rw [← sid, ← send] at holds
  have used : (ran.bucket id).sid ≠ 0 := sid ▸ unused
  split
  · refine ⟨run.setBucket id (fun _ => .inl used) fun _ => run.queued id used, ?_⟩
    exact sent.append (fits_send holds)
  split
  · exact ⟨run, sent⟩
  split
  · exact ⟨run, sent⟩
  · have queued : Fit property (ran.setBucket id { ran.bucket id with
        queue := (ran.bucket id).queue ++ [packet] }) := by
      refine run.setBucket id (fun _ => .inl used) fun _ other member => ?_
      rcases List.mem_append.mp member with old | new
      · exact run.queued id used other old
      · rw [List.mem_singleton.mp new]
        exact holds
    split
    · exact ⟨queued, sent⟩
    · rename_i off
      refine ⟨queued.addToTimer ?_ off, sent⟩
      rw [setBucket_bucket, update_self]
      exact used

theorem tbfRunTimer (fit : Fit property tbfs) :
    Fit property tbfs.tbfRunTimer.1 ∧ Fits property tbfs.tbfRunTimer.2 := by
  have walk : ∀ (ids : List Nat) (state : Tbfs α × List (Sent α)), Fit property state.1 →
      Fits property state.2 → (∀ id ∈ ids, (state.1.bucket id).sid ≠ 0) →
      Fit property (ids.foldl (fun state id =>
        ((state.1.tbfRunQueue id).1, state.2 ++ (state.1.tbfRunQueue id).2)) state).1 ∧
      Fits property (ids.foldl (fun state id =>
        ((state.1.tbfRunQueue id).1, state.2 ++ (state.1.tbfRunQueue id).2)) state).2 := by
    intro ids
    induction ids with
    | nil => exact fun state fit fits _ => ⟨fit, fits⟩
    | cons id rest ih =>
        intro state fit fits used
        obtain ⟨run, sent⟩ := fit.tbfRunQueue (used id (List.mem_cons_self ..))
        refine ih _ run (fits.append sent) fun other member => ?_
        rw [(@tbfRunQueue_kept α state.1 id other).1]
        exact used other (List.mem_cons_of_mem _ member)
  exact walk tbfs.timerChain (tbfs, []) fit nofun fit.running

end Fit

theorem send_length (send : Option Direction) (sid : Nat) (data : α) :
    (send.map fun direction => (⟨sid, direction, data⟩ : Sent α)).toList.length ≤ 1 := by
  cases send with
  | none => exact Nat.zero_le _
  | some direction => exact Nat.le_refl _

theorem sendQueued_length (sid : Nat) (send : Option Direction) (credit : Int)
    (queue : List (Packet α)) :
    (sendQueued sid send credit queue).2.1.length +
      (sendQueued sid send credit queue).2.2.length ≤ queue.length := by
  induction queue generalizing credit with
  | nil => exact Nat.le_refl _
  | cons packet rest ih =>
      rw [sendQueued]
      split
      · have fewer := ih (credit - packet.size)
        have once := send_length send sid packet.data
        generalize sendQueued sid send (credit - packet.size) rest = result at fewer ⊢
        obtain ⟨left, queue, sent⟩ := result
        dsimp only at fewer ⊢
        simp only [List.length_append, List.length_cons]
        omega
      · exact Nat.le_refl _

theorem setBucket_length {id other n : Nat} {tbf : Tbf α}
    (queue_le : (tbfs.bucket other).queue.length ≤ n) (fewer : tbf.queue.length ≤ n) :
    ((tbfs.setBucket id tbf).bucket other).queue.length ≤ n := by
  rw [setBucket_bucket]
  by_cases here : other = id
  · rwa [here, update_self]
  · rwa [update_of_ne here]

theorem tbfRunQueue_length {n : Nat} (queue_le : ∀ id, (tbfs.bucket id).queue.length ≤ n)
    (id : Nat) :
    (∀ other, ((tbfs.tbfRunQueue id).1.bucket other).queue.length ≤ n) ∧
      (tbfs.tbfRunQueue id).2.length ≤ n := by
  have fewer := sendQueued_length (tbfs.bucket id).sid (tbfs.bucket id).send
    ((tbfs.bucket id).available tbfs.time) (tbfs.bucket id).queue
  have small := queue_le id
  rw [Tbfs.tbfRunQueue]
  dsimp only
  generalize sendQueued (tbfs.bucket id).sid (tbfs.bucket id).send
    ((tbfs.bucket id).available tbfs.time) (tbfs.bucket id).queue = result at fewer ⊢
  have left : result.2.1.length ≤ n := by omega
  have sent : result.2.2.length ≤ n := by omega
  split
  all_goals exact ⟨fun other => setBucket_length (queue_le other) left, sent⟩

theorem tbfQueuePacket_length (queue_le : ∀ id, (tbfs.bucket id).queue.length ≤ tbfMaxQueue)
    (id : Nat) (packet : Packet α) :
    (∀ other, ((tbfs.tbfQueuePacket id packet).1.bucket other).queue.length ≤ tbfMaxQueue) ∧
      (tbfs.tbfQueuePacket id packet).2.length ≤ tbfMaxQueue + 1 := by
  obtain ⟨kept, few⟩ := tbfRunQueue_length queue_le id
  rw [Tbfs.tbfQueuePacket]
  generalize tbfs.tbfRunQueue id = result at kept few ⊢
  obtain ⟨ran, sent⟩ := result
  dsimp only at kept few ⊢
  split_ifs with outside unused room full large timed
  · exact ⟨queue_le, Nat.zero_le _⟩
  · exact ⟨queue_le, Nat.zero_le _⟩
  · refine ⟨fun other => setBucket_length (kept other) (kept id), ?_⟩
    rw [List.length_append]
    exact Nat.add_le_add few (send_length _ _ _)
  · exact ⟨kept, Nat.le_succ_of_le few⟩
  · exact ⟨kept, Nat.le_succ_of_le few⟩
  all_goals
    refine ⟨fun other => setBucket_length (kept other) ?_, Nat.le_succ_of_le few⟩
    rw [List.length_append]
    exact Nat.lt_of_not_le full

end Tbfs

end L2tpns.Server.Throttle
