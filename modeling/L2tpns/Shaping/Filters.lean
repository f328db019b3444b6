import L2tpns.Shaping.Bucket
import L2tpns.Foundation.TransitionSystem

/-! # The table of token buckets

`filter_list` with its timer chain, a list that is linked through the buckets themselves: a link
of 0 means that a bucket is off the chain, and a head of -1 that the chain is empty.
-/

namespace L2tpns.Shaping

open Server.Throttle (Direction)

/-- `tbft` -/
structure Tbft extends Bucket where
  prev : Nat := 0
  next : Nat := 0

structure Filters where
  filterList : Nat → Tbft
  filterListSize : Nat
  timerChain : Int
  /-- Where `new_tbf` goes on. -/
  p : Nat
  /-- `TIME` -/
  time : UInt32

/-- A call of the helper of a bucket. -/
structure Departure where
  id : Nat
  packet : Handed
deriving DecidableEq, Repr

namespace Filters

variable (st : Filters)

def setTbf (id : Nat) (f : Tbft) : Filters :=
  { st with filterList := Function.update st.filterList id f }

def setNext (id next : Nat) : Filters := st.setTbf id { st.filterList id with next := next }

def setPrev (id prev : Nat) : Filters := st.setTbf id { st.filterList id with prev := prev }

def setBucket (id : Nat) (f : Bucket) : Filters :=
  st.setTbf id { st.filterList id with toBucket := f }

/-- `init_tbf` -/
def initTbf (numTbfs : Nat) (time : UInt32) : Filters where
  filterList := Function.update (fun _ => {}) 0 { sid := -1 }
  filterListSize := numTbfs
  timerChain := -1
  p := 0
  time := time

/-- `add_to_timer` -/
def addToTimer (id : Nat) : Filters :=
  if st.timerChain = -1 then { (st.setNext id id).setPrev id id with timerChain := id }
  else
    let head := st.timerChain.toNat
    let first := (st.setNext id head).setPrev id (st.filterList head).prev
    let second := first.setNext (first.filterList head).prev id
    second.setPrev head id

/-- `del_from_timer` -/
def delFromTimer (id : Nat) : Filters :=
  if (st.filterList id).next = id then
    let emptied := if st.timerChain ≠ id then st else { st with timerChain := -1 }
    (emptied.setNext id 0).setPrev id 0
  else
    let first := st.setPrev (st.filterList id).next (st.filterList id).prev
    let second := first.setNext (first.filterList id).prev (first.filterList id).next
    let headed :=
      if second.timerChain = id then { second with timerChain := (second.filterList id).next }
      else second
    (headed.setNext id 0).setPrev id 0

/-- `free_tbf` -/
def freeTbf (tid : Nat) : Filters :=
  if tid < 1 then st
  else
    let off := if (st.filterList tid).next ≠ 0 then st.delFromTimer tid else st
    off.setBucket tid { (off.filterList tid).toBucket with sid := 0 }

/-- The loop of `new_tbf` over so many buckets from `p` on. -/
def findFree : Nat → Nat → Nat × Bool
  | 0, p => (p, false)
  | i + 1, p =>
      if (st.filterList p).sid ≠ 0 then findFree i ((p + 1) % st.filterListSize) else (p, true)

/-- `new_tbf`, with the id of the bucket or 0. -/
def newTbf (sid : Int) (maxCredit rate : Int) (send : Option Direction) : Filters × Nat :=
  match st.findFree st.filterListSize st.p with
  | (p, false) => ({ st with p := p }, 0)
  | (p, true) =>
      ({ st.setTbf p { toBucket := .fresh sid maxCredit rate send } with p := p }, p)

/-- `tbf_run_queue` -/
def tbfRunQueue (id : Nat) : Filters × List Departure :=
  let (f, handed) := (st.filterList id).run st.time
  let run := st.setBucket id f
  (if f.queued ≠ 0 then run
    else if (run.filterList id).next ≠ 0 then run.delFromTimer id
    else run,
    handed.map (⟨id, ·⟩))

/-- What `tbf_queue_packet` returns. -/
def result (size : Nat) : Bucket.Fate → Int
  | .sent => size
  | .queued => 0
  | .dropped => -1

/-- `tbf_queue_packet` -/
def tbfQueuePacket (id : Nat) (data : List UInt8) : Filters × List Departure × Int :=
  if st.filterListSize < id ∨ id < 1 then (st, [], -1)
  else if (st.filterList id).sid = 0 then (st, [], -1)
  else
    let (run, sent) := st.tbfRunQueue id
    let (f, handed, fate) := (run.filterList id).offer data
    let put := run.setBucket id f
    (if fate = .queued ∧ (put.filterList id).next = 0 then put.addToTimer id else put,
      sent ++ handed.map (⟨id, ·⟩), result data.length fate)

/-- The loop of `tbf_run_timer` from bucket `i` on, while its counter lasts. The last list is of
the buckets that it runs. -/
def walk (last : Nat) : Nat → Nat → Filters → Filters × List Departure × List Nat
  | 0, _, st => (st, [], [])
  | count + 1, i, st =>
      let next := (st.filterList i).next
      let (run, sent) := st.tbfRunQueue i
      if 0 < run.timerChain ∧ next ≠ 0 ∧ i ≠ last ∧ 0 < count then
        let (done, more, ran) := walk last count next run
        (done, sent ++ more, i :: ran)
      else (run, sent, [i])

/-- `tbf_run_timer` -/
def tbfRunTimer : Filters × List Departure × List Nat :=
  if st.timerChain < 0 then (st, [], [])
  else
    let head := st.timerChain.toNat
    walk (st.filterList head).prev (st.filterListSize + 1) head st

end Filters

/-- A call from outside, or `TIME` changes. -/
inductive Call
  | newTbf (sid : Int) (maxCredit rate : Int) (send : Option Direction)
  | freeTbf (tid : Nat)
  | tbfQueuePacket (id : Nat) (data : List UInt8)
  | tbfRunTimer
  | time (time : UInt32)

/-- The table, and for each bucket the packets that were accepted and sent since it was last
allocated. -/
structure History where
  st : Filters
  accepted : Nat → List (List UInt8)
  sent : Nat → List (List UInt8)

/-- The packets that a bucket hands to its helper. -/
def packetsOf (id : Nat) (departures : List Departure) : List (List UInt8) :=
  (departures.filter (·.id = id)).map (·.packet.data)

/-- What is accepted after a packet was offered to a bucket, with the result of that call. -/
def accept (result : Int) (id : Nat) (data : List UInt8) (accepted : Nat → List (List UInt8)) :
    Nat → List (List UInt8) :=
  if result = -1 then accepted else Function.update accepted id (accepted id ++ [data])

/-- One call. -/
def History.step (h : History) : Call → History
  | .newTbf sid maxCredit rate send =>
      let (st, id) := h.st.newTbf sid maxCredit rate send
      { st := st
        accepted := if id = 0 then h.accepted else Function.update h.accepted id []
        sent := if id = 0 then h.sent else Function.update h.sent id [] }
  | .freeTbf tid => { h with st := h.st.freeTbf tid }
  | .tbfQueuePacket id data =>
      let (st, departures, result) := h.st.tbfQueuePacket id data
      { st := st
        accepted := accept result id data h.accepted
        sent := fun i => h.sent i ++ packetsOf i departures }
  | .tbfRunTimer =>
      let (st, departures, _) := h.st.tbfRunTimer
      { h with st := st, sent := fun i => h.sent i ++ packetsOf i departures }
  | .time time => { h with st := { h.st with time := time } }

/-- The ids are those of buckets. -/
def Call.InRange (size : Nat) : Call → Prop
  | .freeTbf tid => 1 ≤ tid ∧ tid < size
  | .tbfQueuePacket id _ => 1 ≤ id ∧ id < size
  | _ => True

/-- A table from its creation on. -/
def system : Foundation.TransitionSystem History Call where
  initial h := ∃ numTbfs time, 0 < numTbfs ∧
    h = ⟨.initTbf numTbfs time, fun _ => [], fun _ => []⟩
  step h call h' := h' = h.step call

end L2tpns.Shaping
