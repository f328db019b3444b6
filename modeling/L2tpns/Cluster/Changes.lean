import L2tpns.Cluster.Packing
import L2tpns.Foundation.Requeue
import L2tpns.Foundation.TransitionSystem

/-! # The queue of changed records

A master queues each record that it changes and sends the queue with the next
heartbeat. The queue is an array, compacted when a queued record changes again
and flushed once an append has crossed its limit. It is a queue without
duplicates (`L2tpns.Cluster.Master.queued_typeChanged`); as long as no new record
is queued behind a full array, no access leaves the array and every change is
queued or in a heartbeat (`L2tpns.Cluster.ChangeRun.changes_sent`).
-/

namespace L2tpns.Cluster

open Foundation

/-- What a process packs its heartbeats from. Slots of `cluster_changes` from
`MAX_CHANGES` on lie outside of the array. -/
structure Master (layout : Layout) where
  tables : Tables layout
  highest : Kind → Nat
  walks : Kind → Nat
  iamMaster : Bool
  forked : Bool
  slots : Nat → Change
  numChanges : Nat

/-- The slot, from `i` on, that a change is queued in. -/
def findChange (slots : Nat → Change) (change : Change) : Nat → Nat → Option Nat
  | _, 0 => none
  | i, left + 1 =>
      if slots i = change then some i else findChange slots change (i + 1) left

/-- Move the slots behind slot `i` down by one. -/
def moveDown (slots : Nat → Change) (i left : Nat) : Nat → Change :=
  fun j => if i ≤ j ∧ j < left then slots (j + 1) else slots j

namespace Master

variable {layout : Layout}

/-- The changes in the queue. -/
def queued (master : Master layout) : List Change :=
  (List.range master.numChanges).map master.slots

/-- Remove a change that is queued already; the second component lists the
slots that are read or written. -/
def unmark (master : Master layout) (change : Change) : Master layout × List Nat :=
  match findChange master.slots change 0 master.numChanges with
  | none => (master, List.range master.numChanges)
  | some i =>
      let left := master.numChanges - 1
      ({ master with slots := moveDown master.slots i left, numChanges := left },
        List.range (i + 1) ++ List.range' (i + 1) (left - i) ++ List.range' i (left - i))

/-- Put a change behind the queue. -/
def mark (master : Master layout) (change : Change) : Master layout :=
  { master with
    slots := Function.update master.slots master.numChanges change
    numChanges := master.numChanges + 1 }

/-- `type_changed` up to the flush. -/
def typeChanged (master : Master layout) (change : Change) : Master layout × List Nat :=
  let unmarked := master.unmark change
  (unmarked.1.mark change, unmarked.2 ++ [unmarked.1.numChanges])

end Master

/-- A heartbeat, and the tables it was built from. -/
structure Built (layout : Layout) where
  tables : Tables layout
  elements : List Element

/-- A change that was marked when `before` heartbeats had been built. -/
structure Mark where
  change : Change
  before : Nat

/-- A process and what it has done: the slots of `cluster_changes` it accessed,
the heartbeats it built and the changes it marked. -/
structure ChangeRun (layout : Layout) where
  master : Master layout
  exited : Bool
  accesses : List Nat
  built : List (Built layout)
  marks : List Mark

namespace ChangeRun

variable {layout : Layout}

/-- `cluster_heartbeat`. -/
def clusterHeartbeat (run : ChangeRun layout) : ChangeRun layout :=
  let master := run.master
  if !master.iamMaster then run
  else
    let result := packAndSend master.tables master.queued master.highest master.walks
    let run := { run with accesses := run.accesses ++ List.range master.numChanges }
    match result.1 with
    | .overran => { run with exited := true, master := { master with walks := result.2 } }
    | .oversize elements =>
        { run with
          exited := true
          master := { master with walks := result.2, numChanges := 0 }
          built := run.built ++ [⟨master.tables, elements⟩] }
    | .sent elements =>
        { run with
          master := { master with walks := result.2, numChanges := 0 }
          built := run.built ++ [⟨master.tables, elements⟩] }

/-- `type_changed`: queue a change, and flush a queue that has grown too long. -/
def typeChanged (run : ChangeRun layout) (change : Change) : ChangeRun layout :=
  let changed := run.master.typeChanged change
  let run := { run with master := changed.1, accesses := run.accesses ++ changed.2 }
  if layout.maxChanges < run.master.numChanges then run.clusterHeartbeat else run

/-- `cluster_send_session`, `cluster_send_bundle` and `cluster_send_tunnel`. -/
def clusterSend (run : ChangeRun layout) (change : Change) : ChangeRun layout :=
  if !run.master.iamMaster then run
  else if change.kind = .session ∧ run.master.forked = true then run
  else
    let marked : ChangeRun layout :=
      { run with marks := run.marks ++ [⟨change, run.built.length⟩] }
    marked.typeChanged change

inductive Action (layout : Layout) where
  | send (change : Change)
  | heartbeat
  | write (tables : Tables layout) (highest : Kind → Nat)

def act (run : ChangeRun layout) : Action layout → ChangeRun layout
  | .send change => run.clusterSend change
  | .heartbeat => run.clusterHeartbeat
  | .write tables highest =>
      { run with master := { run.master with tables := tables, highest := highest } }

/-- A master with an empty queue. -/
structure Starts (run : ChangeRun layout) : Prop where
  master : run.master.iamMaster = true
  empty : run.master.numChanges = 0
  running : run.exited = false
  accesses : run.accesses = []
  built : run.built = []
  marks : run.marks = []

/-- A master whose tables change between the calls. -/
def system (layout : Layout) : TransitionSystem (ChangeRun layout) (Action layout) where
  initial := Starts
  step run action next := run.exited = false ∧ next = run.act action

/-- No new change is queued behind a full array. -/
def HasRoom (run : ChangeRun layout) : Action layout → Prop
  | .send change =>
      change ∈ run.master.queued ∨ run.master.numChanges < layout.maxChanges
  | _ => True

end ChangeRun

/-- The slot found is the first that holds the change. -/
theorem findChange_spec (slots : Nat → Change) (change : Change) (i left : Nat) :
    match findChange slots change i left with
    | none => ∀ j, i ≤ j → j < i + left → slots j ≠ change
    | some found => i ≤ found ∧ found < i + left ∧ slots found = change ∧
        ∀ j, i ≤ j → j < found → slots j ≠ change := by
  induction left generalizing i with
  | zero =>
      intro j above below
      omega
  | succ left ih =>
      unfold findChange
      by_cases here : slots i = change
      · rw [if_pos here]
        refine ⟨Nat.le_refl _, Nat.lt_add_of_pos_right (Nat.succ_pos _), here, ?_⟩
        intro j above below
        omega
      · rw [if_neg here]
        have behind := ih (i + 1)
        cases found : findChange slots change (i + 1) left with
        | none =>
            rw [found] at behind
            intro j above below
            by_cases first : j = i
            · rw [first]
              exact here
            · exact behind j (by omega) (by omega)
        | some slot =>
            rw [found] at behind
            obtain ⟨above, below, holds, first⟩ := behind
            refine ⟨by omega, by omega, holds, fun j least more => ?_⟩
            by_cases start : j = i
            · rw [start]
              exact here
            · exact first j (by omega) more

namespace Master

variable {layout : Layout} (master : Master layout)

theorem queued_length : master.queued.length = master.numChanges := by
  rw [queued, List.length_map, List.length_range]

variable (change : Change)

theorem queued_unmark : (master.unmark change).1.queued = master.queued.erase change := by
  have spec := findChange_spec master.slots change 0 master.numChanges
  unfold unmark
  cases found : findChange master.slots change 0 master.numChanges with
  | none =>
      rw [found] at spec
      rw [List.erase_of_not_mem]
      intro present
      obtain ⟨j, below, holds⟩ := List.mem_map.mp present
      exact spec j (Nat.zero_le _) (by rw [Nat.zero_add]; exact List.mem_range.mp below) holds
  | some i =>
      rw [found] at spec
      obtain ⟨_, below, holds, first⟩ := spec
      rw [Nat.zero_add] at below
      -- the queue is what lies before the slot, the slot and what lies behind it
      have whole : List.range master.numChanges =
          List.range i ++ i :: List.range' (i + 1) (master.numChanges - 1 - i) := by
        rw [List.range_eq_range', List.range_eq_range', ← List.range'_succ]
        have split := (List.range'_append_1 (s := 0) (m := i)
          (n := master.numChanges - 1 - i + 1)).symm
        rw [Nat.zero_add] at split
        rw [← split]
        congr 1
        omega
      have moved : List.range (master.numChanges - 1) =
          List.range i ++ List.range' i (master.numChanges - 1 - i) := by
        rw [List.range_eq_range', List.range_eq_range']
        have split := (List.range'_append_1 (s := 0) (m := i)
          (n := master.numChanges - 1 - i)).symm
        rw [Nat.zero_add] at split
        rw [← split]
        congr 1
        omega
      change (List.range (master.numChanges - 1)).map
        (moveDown master.slots i (master.numChanges - 1)) =
          ((List.range master.numChanges).map master.slots).erase change
      rw [whole, moved, List.map_append, List.map_append, List.map_cons, holds,
        List.erase_append_right, List.erase_cons_head]
      · congr 1
        · apply List.map_congr_left
          intro j before
          have less := List.mem_range.mp before
          rw [moveDown, if_neg (by omega)]
        · rw [List.range'_eq_map_range, List.range'_eq_map_range, List.map_map, List.map_map]
          apply List.map_congr_left
          intro j before
          have less := List.mem_range.mp before
          change moveDown master.slots i (master.numChanges - 1) (i + j) =
            master.slots (i + 1 + j)
          rw [moveDown, if_pos (by omega), Nat.add_right_comm]
      · intro present
        obtain ⟨j, before, equal⟩ := List.mem_map.mp present
        exact first j (Nat.zero_le _) (List.mem_range.mp before) equal

theorem queued_mark : (master.mark change).queued = master.queued ++ [change] := by
  unfold queued mark
  dsimp only
  rw [List.range_succ, List.map_append, List.map_singleton, Function.update_self]
  congr 1
  apply List.map_congr_left
  intro j before
  rw [Function.update_of_ne (Nat.ne_of_lt (List.mem_range.mp before))]

/-- Marking a change queues it without duplicates. -/
theorem queued_typeChanged :
    (master.typeChanged change).1.queued = requeue master.queued change := by
  rw [typeChanged, queued_mark, queued_unmark, requeue]

theorem numChanges_unmark :
    (master.unmark change).1.numChanges = (master.queued.erase change).length := by
  rw [← queued_length, queued_unmark]

theorem unmark_accesses : ∀ slot ∈ (master.unmark change).2, slot < master.numChanges := by
  have spec := findChange_spec master.slots change 0 master.numChanges
  unfold unmark
  cases found : findChange master.slots change 0 master.numChanges with
  | none =>
      intro slot touched
      exact List.mem_range.mp touched
  | some i =>
      rw [found] at spec
      obtain ⟨_, below, _⟩ := spec
      intro slot touched
      rcases List.mem_append.mp touched with searchedOrRead | written
      · rcases List.mem_append.mp searchedOrRead with searched | read
        · have := List.mem_range.mp searched
          omega
        · have := List.mem_range'_1.mp read
          omega
      · have := List.mem_range'_1.mp written
        omega

/-- **The accesses of one call.** They stay inside an array of `size` slots
exactly when the change is queued already or the queue is not full. -/
theorem typeChanged_inside_iff {size : Nat} (fits : master.numChanges ≤ size) :
    (∀ slot ∈ (master.typeChanged change).2, slot < size) ↔
      change ∈ master.queued ∨ master.numChanges < size := by
  have appended : (master.typeChanged change).2 =
      (master.unmark change).2 ++ [(master.unmark change).1.numChanges] := rfl
  have count := master.numChanges_unmark change
  have length := master.queued_length
  constructor
  · intro inside
    by_cases present : change ∈ master.queued
    · exact .inl present
    · apply Or.inr
      rw [List.erase_of_not_mem present, length] at count
      rw [← count]
      apply inside
      rw [appended]
      exact List.mem_append_right _ List.mem_cons_self
  · intro room slot touched
    rw [appended] at touched
    rcases List.mem_append.mp touched with searched | last
    · exact (master.unmark_accesses change slot searched).trans_le fits
    · rw [List.mem_singleton.mp last, count]
      rcases room with present | free
      · have nonempty := List.length_pos_of_mem present
        rw [List.length_erase_of_mem present]
        omega
      · have shorter := (List.erase_sublist (a := change) (l := master.queued)).length_le
        omega

end Master

namespace ChangeRun

variable {layout : Layout} {run : ChangeRun layout}

/-- A marked change is queued, or in a heartbeat built later on. -/
def Delivered (run : ChangeRun layout) (mark : Mark) : Prop :=
  mark.change ∈ run.master.queued ∨
    ∃ position heartbeat, mark.before ≤ position ∧ run.built[position]? = some heartbeat ∧
      Carries heartbeat.tables heartbeat.elements mark.change.kind mark.change.id

/-- What every call keeps, whatever lies behind the array. -/
structure Sound (run : ChangeRun layout) : Prop where
  nodup : run.master.queued.Nodup
  earlier : ∀ mark ∈ run.marks, mark.before ≤ run.built.length
  delivered : ∀ mark ∈ run.marks, run.Delivered mark

/-- The queue and all accesses lie inside the array. -/
structure Inside (run : ChangeRun layout) : Prop where
  fits : run.master.numChanges ≤ layout.maxChanges
  accesses : ∀ slot ∈ run.accesses, slot < layout.maxChanges

theorem Sound.starts (starts : run.Starts) : run.Sound where
  nodup := by
    rw [Master.queued, starts.empty]
    exact List.nodup_nil
  earlier mark marked := by
    rw [starts.marks] at marked
    exact absurd marked List.not_mem_nil
  delivered mark marked := by
    rw [starts.marks] at marked
    exact absurd marked List.not_mem_nil

/-- A heartbeat carries the whole queue, or leaves it as it is. -/
theorem Sound.clusterHeartbeat (sound : run.Sound) : run.clusterHeartbeat.Sound := by
  -- a heartbeat that empties the queue is built and holds every queued change
  have flushed : ∀ (next : ChangeRun layout), next.master.numChanges = 0 →
      next.marks = run.marks →
      next.built = run.built ++ [⟨run.master.tables, (packHeartbeat run.master.tables
        run.master.queued run.master.highest run.master.walks).1⟩] → next.Sound := by
    intro next empty marks built
    refine ⟨?_, ?_, ?_⟩
    · rw [Master.queued, empty]
      exact List.nodup_nil
    · intro mark marked
      rw [marks] at marked
      rw [built, List.length_append]
      exact Nat.le_add_right_of_le (sound.earlier mark marked)
    · intro mark marked
      rw [marks] at marked
      rcases sound.delivered mark marked with queued | ⟨position, heartbeat, later, there, holds⟩
      · refine .inr ⟨run.built.length, ⟨run.master.tables, _⟩, sound.earlier mark marked, ?_,
          carries_packHeartbeat run.master.tables _ run.master.highest run.master.walks queued⟩
        rw [built, List.getElem?_append_right (Nat.le_refl _), Nat.sub_self]
        rfl
      · refine .inr ⟨position, heartbeat, later, ?_, holds⟩
        rw [built, List.getElem?_append_left (List.getElem?_eq_some_iff.mp there).1]
        exact there
  unfold ChangeRun.clusterHeartbeat
  dsimp only
  split
  · exact sound
  · split
    · exact ⟨sound.nodup, sound.earlier, sound.delivered⟩
    · rename_i oversize
      apply flushed
      · rfl
      · rfl
      · rw [packAndSend_built (.inl oversize)]
    · rename_i sent
      apply flushed
      · rfl
      · rfl
      · rw [packAndSend_built (.inr sent)]

theorem Sound.clusterSend (sound : run.Sound) (change : Change) :
    (run.clusterSend change).Sound := by
  have marked : ({ run with
      marks := run.marks ++ [⟨change, run.built.length⟩]
      master := (run.master.typeChanged change).1
      accesses := run.accesses ++ (run.master.typeChanged change).2 } :
      ChangeRun layout).Sound := by
    have queue := run.master.queued_typeChanged change
    refine ⟨?_, ?_, ?_⟩
    · change (run.master.typeChanged change).1.queued.Nodup
      rw [queue]
      exact nodup_requeue sound.nodup change
    · intro mark present
      rcases List.mem_append.mp present with old | new
      · exact sound.earlier mark old
      · rw [List.mem_singleton.mp new]
    · intro mark present
      unfold Delivered
      dsimp only
      rw [queue]
      rcases List.mem_append.mp present with old | new
      · exact (sound.delivered mark old).imp_left mem_requeue
      · rw [List.mem_singleton.mp new]
        exact .inl (mem_requeue_self change)
  unfold ChangeRun.clusterSend
  split
  · exact sound
  · split
    · exact sound
    · unfold ChangeRun.typeChanged
      dsimp only
      split
      · exact marked.clusterHeartbeat
      · exact marked

theorem Sound.act (sound : run.Sound) (action : Action layout) : (run.act action).Sound := by
  cases action with
  | send change => exact sound.clusterSend change
  | heartbeat => exact sound.clusterHeartbeat
  | write tables highest => exact ⟨sound.nodup, sound.earlier, sound.delivered⟩

/-- **No change is dropped**, and none is queued twice, in any run. -/
theorem sound_of_reachable (reached : (system layout).Reachable run) : run.Sound := by
  apply reached.invariant (fun _ => Sound.starts)
  rintro run action _ sound ⟨_, rfl⟩
  exact sound.act action

theorem Inside.clusterHeartbeat (inside : run.Inside) : run.clusterHeartbeat.Inside := by
  have read : ∀ slot ∈ run.accesses ++ List.range run.master.numChanges,
      slot < layout.maxChanges := by
    intro slot touched
    rcases List.mem_append.mp touched with old | new
    · exact inside.accesses slot old
    · exact (List.mem_range.mp new).trans_le inside.fits
  unfold ChangeRun.clusterHeartbeat
  dsimp only
  split
  · exact inside
  · split
    · exact ⟨inside.fits, read⟩
    · exact ⟨Nat.zero_le _, read⟩
    · exact ⟨Nat.zero_le _, read⟩

theorem Inside.clusterSend (inside : run.Inside) {change : Change}
    (room : change ∈ run.master.queued ∨ run.master.numChanges < layout.maxChanges) :
    (run.clusterSend change).Inside := by
  have count : (run.master.typeChanged change).1.numChanges ≤ layout.maxChanges := by
    rw [← Master.queued_length, Master.queued_typeChanged]
    by_cases queued : change ∈ run.master.queued
    · rw [length_requeue_of_mem queued, Master.queued_length]
      exact inside.fits
    · rw [length_requeue_of_not_mem queued, Master.queued_length]
      exact room.resolve_left queued
  have touched := (run.master.typeChanged_inside_iff change inside.fits).mpr room
  unfold ChangeRun.clusterSend
  split
  · exact inside
  · split
    · exact inside
    · unfold ChangeRun.typeChanged
      dsimp only
      rw [if_neg (Nat.not_lt.mpr count)]
      refine ⟨count, fun slot present => ?_⟩
      rcases List.mem_append.mp present with old | new
      · exact inside.accesses slot old
      · exact touched slot new

theorem Inside.act (inside : run.Inside) {action : Action layout}
    (room : run.HasRoom action) : (run.act action).Inside := by
  cases action with
  | send change => exact inside.clusterSend room
  | heartbeat => exact inside.clusterHeartbeat
  | write tables highest => exact ⟨inside.fits, inside.accesses⟩

/-- **The change queue.** In every run that queues no new change behind a full
array, every access is inside the array, no change is queued twice, and every
marked change is still queued or in a heartbeat built after it was marked, with
the contents the tables then had. -/
theorem changes_sent (layout : Layout) {run : ChangeRun layout}
    (reached : (system layout).ReachableUnder HasRoom run) :
    (∀ slot ∈ run.accesses, slot < layout.maxChanges) ∧
      run.master.queued.Nodup ∧
      ∀ mark ∈ run.marks, run.Delivered mark := by
  have sound := sound_of_reachable (reached.weaken fun _ _ _ => trivial)
  have inside : run.Inside := by
    apply reached.invariant
    · intro start starts
      refine ⟨?_, ?_⟩
      · rw [starts.empty]
        exact Nat.zero_le _
      · rw [starts.accesses]
        exact fun slot touched => absurd touched List.not_mem_nil
    · rintro run action _ inside room ⟨_, rfl⟩
      exact inside.act room
  exact ⟨inside.accesses, sound.nodup, sound.delivered⟩

theorem accesses_clusterHeartbeat (run : ChangeRun layout) :
    run.accesses ⊆ run.clusterHeartbeat.accesses := by
  unfold clusterHeartbeat
  dsimp only
  split
  · exact fun _ touched => touched
  · split <;> exact List.subset_append_left _ _

theorem accesses_send {change : Change} (master : run.master.iamMaster = true)
    (parent : run.master.forked = false) (new : change ∉ run.master.queued) :
    run.master.numChanges ∈ (run.act (.send change)).accesses := by
  have written : run.master.numChanges ∈ run.accesses ++ (run.master.typeChanged change).2 := by
    apply List.mem_append_right
    apply List.mem_append_right
    rw [Master.numChanges_unmark, List.erase_of_not_mem new, Master.queued_length]
    exact List.mem_cons_self
  unfold act clusterSend
  dsimp only
  rw [master, parent, if_neg (by decide), if_neg fun both => absurd both.2 (by decide)]
  unfold typeChanged
  dsimp only
  split
  · exact accesses_clusterHeartbeat _ written
  · exact written

/-- Structures that leave room for two changes. -/
def wideLayout : Layout :=
  { smallLayout with
    sess := 2000
    tunn_le := smallLayout.sess_le
    bund_le := smallLayout.sess_le
    sess_le := Nat.le_refl _ }

/-- A master that has done nothing yet. -/
def idleMaster : ChangeRun wideLayout where
  master := ⟨denseTables wideLayout, fun _ => 0, fun _ => 0, true, false,
    fun _ => ⟨.session, 0⟩, 0⟩
  exited := false
  accesses := []
  built := []
  marks := []

theorem idleMaster_starts : idleMaster.Starts := ⟨rfl, rfl, rfl, rfl, rfl, rfl⟩

theorem changes_sent_one :
    (idleMaster.act (.send ⟨.session, 1⟩)).Delivered ⟨⟨.session, 1⟩, 0⟩ :=
  (changes_sent wideLayout (.step (.send ⟨.session, 1⟩) (.initial idleMaster_starts)
    (.inr (by decide)) ⟨rfl, rfl⟩)).2.2 ⟨⟨.session, 1⟩, 0⟩ List.mem_cons_self

/-- A third session changed before the next heartbeat is written behind the
array of two. -/
theorem change_outside :
    ¬ ∀ (layout : Layout) (run : ChangeRun layout), (system layout).Reachable run →
      ∀ slot ∈ run.accesses, slot < layout.maxChanges := by
  intro always
  have started : (system wideLayout).Reachable idleMaster := .initial idleMaster_starts
  have first := started.step (.send ⟨.session, 1⟩) trivial ⟨rfl, rfl⟩
  have second := first.step (.send ⟨.session, 2⟩) trivial ⟨rfl, rfl⟩
  have third := second.step (.send ⟨.session, 3⟩) trivial ⟨rfl, rfl⟩
  have touched := @accesses_send wideLayout ((idleMaster.act (.send ⟨.session, 1⟩)).act
    (.send ⟨.session, 2⟩)) ⟨.session, 3⟩ rfl rfl (by decide)
  exact absurd (always wideLayout _ third 2 touched) (by decide)

end ChangeRun

end L2tpns.Cluster
