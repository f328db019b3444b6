import L2tpns.Foundation.PrefixTree
import Mathlib.Data.List.Induction
import Mathlib.Data.Nat.ModEq

/-! # Maps on bit prefixes

A log of stores, each to a prefix of the addresses of `width` bits. A prefix
holds what was stored for it last. The longest prefix of an address that holds
something is what a routing table resolves the address to
(`Foundation.PrefixMap.longest`).
-/

namespace Foundation

universe u

/-- A value stored for the first `len` bits of `ip`. -/
structure PrefixStore (Value : Type u) where
  ip : Nat
  len : Nat
  value : Value

namespace PrefixMap

variable {Value : Type u} [DecidableEq Value] (width : Nat) (zero : Value)

/-- Whether two addresses have the same first `len` bits. -/
def Agree (len ip other : Nat) : Prop := ip / 2 ^ (width - len) = other / 2 ^ (width - len)

instance (len ip other : Nat) : Decidable (Agree width len ip other) :=
  inferInstanceAs (Decidable (_ = _))

/-- What was stored last for the first `len` bits of an address. -/
def held (stores : List (PrefixStore Value)) (len address : Nat) : Value :=
  stores.foldl (fun value store =>
    if store.len = len ∧ Agree width len store.ip address then store.value else value) zero

omit [DecidableEq Value] in
theorem held_append (stores : List (PrefixStore Value)) (store : PrefixStore Value)
    (len address : Nat) : held width zero (stores ++ [store]) len address =
      if store.len = len ∧ Agree width len store.ip address then store.value
      else held width zero stores len address := by
  rw [held, List.foldl_append]
  rfl

/-- The first value that is not `zero`. -/
def pick (values : Nat → Value) : List Nat → Value
  | [] => zero
  | len :: lens => if values len = zero then pick values lens else values len

/-- What the longest prefix of an address that holds anything holds. -/
def longest (stores : List (PrefixStore Value)) (address : Nat) : Value :=
  pick zero (fun len => held width zero stores len address) (List.range' 1 width).reverse

variable {width zero} {values : Nat → Value}

theorem pick_congr {other : Nat → Value} {lens : List Nat}
    (same : ∀ len ∈ lens, values len = other len) :
    pick zero values lens = pick zero other lens := by
  induction lens with
  | nil => rfl
  | cons len lens ih =>
      rw [pick, pick, same len List.mem_cons_self,
        ih fun other behind => same other (List.mem_cons_of_mem len behind)]

theorem pick_map (f : Nat → Nat) (lens : List Nat) :
    pick zero values (lens.map f) = pick zero (fun len => values (f len)) lens := by
  induction lens with
  | nil => rfl
  | cons len lens ih => rw [List.map_cons, pick, pick, ih]

/-- A search upwards finds nothing, or the first of those that are present. -/
theorem pick_cases (values : Nat → Value) (start count : Nat) :
    (∀ len, start ≤ len → len < start + count → values len = zero) ∧
        pick zero values (List.range' start count) = zero ∨
      ∃ len, start ≤ len ∧ len < start + count ∧
        (∀ fewer, start ≤ fewer → fewer < len → values fewer = zero) ∧ values len ≠ zero ∧
          pick zero values (List.range' start count) = values len := by
  induction count generalizing start with
  | zero =>
      refine .inl ⟨fun len above below => ?_, rfl⟩
      omega
  | succ count ih =>
      rw [List.range'_succ, pick]
      by_cases empty : values start = zero
      · rw [if_pos empty]
        have later : ∀ bound, (∀ len, start + 1 ≤ len → len < bound → values len = zero) →
            ∀ len, start ≤ len → len < bound → values len = zero := by
          intro bound behind len above below
          by_cases here : len = start
          · rw [here]
            exact empty
          · exact behind len (by omega) below
        obtain ⟨none, nothing⟩ | ⟨len, above, below, first, present, found⟩ := ih (start + 1)
        · exact .inl ⟨fun len above below => later _ none len above (by omega), nothing⟩
        · exact .inr ⟨len, by omega, by omega, later len first, present, found⟩
      · rw [if_neg empty]
        refine .inr ⟨start, Nat.le_refl _, by omega, fun fewer above below => ?_, empty, rfl⟩
        omega

omit [DecidableEq Value] in
theorem firstCell_eq_pick {Digit : Type} {Cell : Type} [DecidableEq Cell] {zero : Cell}
    (cells : List Digit → Cell) (key : List Digit) :
    PrefixTree.firstCell zero cells key =
      pick zero (fun count => cells (key.take count)) (List.range (key.length + 1)) := by
  induction key generalizing cells with
  | nil =>
      change cells [] = if cells [] = zero then zero else cells []
      by_cases empty : cells [] = zero
      · rw [if_pos empty, empty]
      · rw [if_neg empty]
  | cons digit key ih =>
      rw [PrefixTree.firstCell, ih, List.length_cons, List.range_succ_eq_map (n := key.length + 1),
        pick, pick_map]
      rfl

end PrefixMap

end Foundation
