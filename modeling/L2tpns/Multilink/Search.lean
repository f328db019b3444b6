import L2tpns.Multilink.Reassembly

/-! # What a search for frames keeps

A search clears fragments, moves the start of its ring and hands frames on. A property of
fragments that is kept when one is cleared holds of all that are in the ring, and what follows from
it of a frame that is put together holds of all that are handed on
(`L2tpns.Multilink.Search.Holds.reached`). A frame has all its fragments
(`L2tpns.Multilink.frameEnd_present`).
-/

namespace L2tpns.Multilink

open Avp (Memory)
open Foundation
open Server (maxEther)

variable {ring : Fragmentation} {i first last : Index} {search next : Search}
  {mMin seq : UInt32} {good : Fragment → Prop} {fit : Handed → Prop}

theorem Index.ext_val {i j : Index} (same : i.val = j.val) : i = j := by
  cases i
  cases j
  exact Index.mk.injEq .. ▸ same

/-- A property holds of all fragments. -/
def Fragmentation.All (good : Fragment → Prop) (ring : Fragmentation) : Prop :=
  ∀ i, good (ring.fragment i)

/-- A fragment keeps a property when it is cleared. -/
def Clears (good : Fragment → Prop) : Prop :=
  ∀ fragment, good fragment → good { fragment with length := 0, flags := 0 }

namespace Fragmentation.All

theorem put (all : ring.All good) {fragment : Fragment} (new : good fragment) (i : Index) :
    (ring.put i fragment).All good := by
  intro j
  by_cases here : j = i
  · subst here
    simpa only [Fragmentation.put, Function.update_self] using new
  · simpa only [Fragmentation.put, Function.update_of_ne here] using all j

theorem clear (all : ring.All good) (clears : Clears good) (i : Index) :
    (ring.clear i).All good :=
  all.put (clears _ (all i)) i

theorem clearIf (all : ring.All good) (clears : Clears good) (lost : Bool) (i : Index) :
    (ring.clearIf lost i).All good := by
  cases lost
  · exact all
  · exact all.clear clears i

theorem clearAll (all : ring.All good) (clears : Clears good) (indexes : List Index) :
    (indexes.foldl Fragmentation.clear ring).All good := by
  induction indexes generalizing ring with
  | nil => exact all
  | cons i rest ih => exact ih (all.clear clears i)

theorem use (all : ring.All good) (clears : Clears good) (first last : Index) :
    (ring.use first last).All good := by
  have start : ({ ring with reFrameLen := 0 } : Fragmentation).All good := all
  have used := start.clearAll clears (span first last)
  have moved (i : Index) (seq : UInt32) : Fragmentation.All good
      { (span first last).foldl Fragmentation.clear { ring with reFrameLen := 0 } with
        startIndex := i, startSeq := seq } := used
  exact (moved _ _).clearIf clears _ _

theorem insert {tracked : Tracked} {fragment : Fragment} (all : tracked.ring.All good)
    (clears : Clears good) (new : good fragment) (i : Index) :
    (tracked.insert i fragment).ring.All good := by
  have cleaned := (all.put new i).clearIf clears
  simp only [Tracked.insert]
  split_ifs
  · exact cleaned _ _
  · exact (cleaned _ _).clearIf clears _ _

end Fragmentation.All

theorem frameEnd_steps {rounds : Nat} {index : Index}
    (ends : ring.frameEnd rounds index = some last) :
    ∃ k < rounds, last = masked (index.val + k) ∧
      ∀ j ≤ k, (ring.fragment (masked (index.val + j))).length ≠ 0 := by
  have itself (index : Index) : masked (index.val + 0) = index :=
    Index.ext_val (Nat.mod_eq_of_lt index.inside)
  induction rounds generalizing index with
  | zero => exact nomatch ends
  | succ rounds ih =>
      rw [Fragmentation.frameEnd] at ends
      split_ifs at ends with missing found around
      · obtain rfl := Option.some.inj ends
        refine ⟨0, Nat.succ_pos _, (itself index).symm, fun j low => ?_⟩
        rwa [Nat.le_zero.mp low, itself]
      · obtain ⟨k, small, rfl, present⟩ := ih ends
        have moves (j : Nat) : masked (index.next.val + j) = masked (index.val + (j + 1)) := by
          refine Index.ext_val ?_
          simp only [Index.next, masked, Nat.mod_add_mod]
          congr 1
          omega
        refine ⟨k + 1, Nat.succ_lt_succ small, moves k, fun j low => ?_⟩
        cases j with
        | zero => rwa [itself]
        | succ j =>
            rw [← moves]
            exact present j (Nat.le_of_succ_le_succ low)

/-- A frame has all its fragments. -/
theorem frameEnd_present (ends : ring.frameEnd maxFragNum first = some last) :
    ∀ i ∈ span first last, (ring.fragment i).length ≠ 0 := by
  obtain ⟨k, small, rfl, present⟩ := frameEnd_steps ends
  intro i member
  obtain ⟨j, low, rfl⟩ := List.mem_map.mp member
  refine present j (Nat.le_of_lt_succ (Nat.lt_of_lt_of_eq (List.mem_range.mp low) ?_))
  have inside := first.inside
  simp only [masked, maxFragNum] at small inside ⊢
  omega

/-- What follows of a frame that is put together of good fragments which are there. -/
def Hands (good : Fragment → Prop) (fit : Handed → Prop) : Prop :=
  ∀ (ring : Fragmentation) (first last : Index) (length : Nat) (buffer : Memory),
    ring.All good → (∀ i ∈ span first last, (ring.fragment i).length ≠ 0) →
    ring.assemble (span first last) 4 ring.reassembledFrame = (some length, buffer) →
    fit ⟨{ ring with
      reassembledFrame := buffer
      reFrameLen := length
      reFrameBeginIndex := first
      reFrameEndIndex := last }, length⟩

/-- All fragments are good, and all frames handed on are fit. -/
structure Search.Holds (good : Fragment → Prop) (fit : Handed → Prop) (search : Search) : Prop where
  ring : search.ring.All good
  handed : ∀ frame ∈ search.handed, fit frame

namespace Search.Holds

theorem handOn (holds : search.Holds good fit) (hands : Hands good fit)
    (present : ∀ i ∈ span first last, (search.ring.fragment i).length ≠ 0) :
    (search.handOn first last).Holds good fit := by
  rw [Search.handOn]
  cases assembled : search.ring.assemble (span first last) 4 search.ring.reassembledFrame with
  | mk length buffer =>
      cases length with
      | none => exact ⟨holds.ring, holds.handed⟩
      | some length =>
          refine ⟨holds.ring, fun frame member => ?_⟩
          rcases List.mem_append.mp member with old | new
          · exact holds.handed frame old
          · obtain rfl := List.mem_singleton.mp new
            exact hands search.ring first last length buffer holds.ring present assembled

theorem finishFrame (holds : search.Holds good fit) (clears : Clears good)
    (hands : Hands good fit) (mMin : UInt32)
    (present : ∀ i ∈ span first last, (search.ring.fragment i).length ≠ 0) :
    (search.finishFrame mMin first last).Holds good fit := by
  have handedOn := holds.handOn hands present
  have used := handedOn.ring.use clears first last
  rw [Search.finishFrame]
  split_ifs <;> exact ⟨used, handedOn.handed⟩

theorem assemblingFrame (holds : search.Holds good fit) (clears : Clears good)
    (hands : Hands good fit) (mMin : UInt32) :
    (search.assemblingFrame mMin).Holds good fit := by
  rw [Search.assemblingFrame]
  split_ifs
  · exact ⟨holds.ring, holds.handed⟩
  · exact ⟨holds.ring, holds.handed⟩
  · cases ends : search.ring.frameEnd maxFragNum search.ring.startIndex with
    | none => exact ⟨holds.ring, holds.handed⟩
    | some last => exact holds.finishFrame clears hands mMin (frameEnd_present ends)

theorem findBegin (holds : search.Holds good fit) (clears : Clears good) (mMin seq : UInt32)
    (index : Index) : (search.findBegin mMin seq index).Holds good fit := by
  rw [Search.findBegin]
  split_ifs
  all_goals first
    | exact ⟨holds.ring, holds.handed⟩
    | exact ⟨holds.ring.clear clears index, holds.handed⟩

theorem findEnd (holds : search.Holds good fit) (clears : Clears good) (mMin seq : UInt32)
    (index : Index) : (search.findEnd mMin seq index).Holds good fit := by
  rw [Search.findEnd]
  split_ifs
  all_goals first
    | exact ⟨holds.ring, holds.handed⟩
    | exact ⟨holds.ring.clear clears index, holds.handed⟩

/-- **One iteration keeps what holds.** -/
theorem advance (holds : search.Holds good fit) (clears : Clears good) (hands : Hands good fit)
    (mMin : UInt32) : (search.advance mMin).Holds good fit := by
  rw [Search.advance]
  cases search.place with
  | findFrame => exact ⟨holds.ring, holds.handed⟩
  | findBegin seq index => exact holds.findBegin clears mMin seq index
  | findEnd seq index => exact holds.findEnd clears mMin seq index
  | assemblingFrame => exact holds.assemblingFrame clears hands mMin
  | finished => exact holds

theorem reached (holds : search.Holds good fit) (clears : Clears good) (hands : Hands good fit)
    (reached : (searchLoop mMin).Reaches search next) : next.Holds good fit := by
  refine reached.invariant holds fun here there holds moves => ?_
  simp only [WhileLoop.Continues, searchLoop] at moves
  split_ifs at moves
  rw [← Sum.inr.inj moves]
  exact holds.advance clears hands mMin

end Search.Holds

theorem Placed.search_holds {placed : Placed} (all : placed.ring.All good) :
    placed.search.Holds good fit := ⟨all, fun _ member => absurd member List.not_mem_nil⟩

end L2tpns.Multilink
