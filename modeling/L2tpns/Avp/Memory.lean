import L2tpns.Avp.Process

/-! # Bytes in memory

What is read at a place, after a write there or elsewhere.
-/

namespace L2tpns.Avp

variable {memory other : Memory} {b n k : Nat}

theorem readBytes_length (memory : Memory) (b n : Nat) : (readBytes memory b n).length = n := by
  rw [readBytes, List.length_map, List.length_range]

theorem readBytes_cons (memory : Memory) (b n : Nat) :
    readBytes memory b (n + 1) = memory b :: readBytes memory (b + 1) n := by
  unfold readBytes
  rw [List.range_succ_eq_map, List.map_cons, List.map_map]
  congr 1
  apply List.map_congr_left
  intro k _
  exact congrArg memory (by omega)

theorem readBytes_getElem? {bytes : List UInt8} {byte : UInt8}
    (read : readBytes memory b n = bytes) (there : bytes[k]? = some byte) :
    memory (b + k) = byte := by
  subst read
  obtain ⟨inside, found⟩ := List.getElem?_eq_some_iff.mp there
  simpa [readBytes] using found

theorem readBytes_congr (same : ∀ k, k < n → memory (b + k) = other (b + k)) :
    readBytes memory b n = readBytes other b n := by
  apply List.map_congr_left
  intro k inside
  exact same k (List.mem_range.mp inside)

theorem readBytes_append (b n more : Nat) :
    readBytes memory b (n + more) = readBytes memory b n ++ readBytes memory (b + n) more := by
  simp [readBytes, List.range_add, Nat.add_assoc]

theorem readBytes_drop (memory : Memory) (b n i : Nat) :
    (readBytes memory b n).drop i = readBytes memory (b + i) (n - i) := by
  apply List.ext_getElem
  · rw [List.length_drop, readBytes_length, readBytes_length]
  · intro k _ _
    simp only [List.getElem_drop, readBytes, List.getElem_map, List.getElem_range, Nat.add_assoc]

theorem writeBytes_nil (memory : Memory) (b : Nat) : writeBytes memory b [] = memory :=
  funext fun k => by rw [writeBytes, List.getElem?_nil, Option.getD_none, ite_self]

theorem writeBytes_before {bytes : List UInt8} (memory : Memory) (before : k < b) :
    writeBytes memory b bytes k = memory k := by
  rw [writeBytes, if_neg (by omega)]

theorem writeBytes_inside (memory : Memory) (b : Nat) {bytes : List UInt8} {i : Nat}
    (inside : i < bytes.length) : writeBytes memory b bytes (b + i) = bytes[i] := by
  simp [writeBytes, inside]

theorem writeBytes_beyond {bytes : List UInt8} (memory : Memory)
    (beyond : b + bytes.length ≤ k) : writeBytes memory b bytes k = memory k := by
  rw [writeBytes, List.getElem?_eq_none (by omega), Option.getD_none, ite_self]

theorem writeBytes_outside {bytes : List UInt8} (memory : Memory)
    (outside : k < b ∨ b + bytes.length ≤ k) : writeBytes memory b bytes k = memory k :=
  outside.elim (writeBytes_before memory) (writeBytes_beyond memory)

theorem writeBytes_split (memory : Memory) (b : Nat) (bytes more : List UInt8) (k : Nat) :
    writeBytes memory b (bytes ++ more) k =
      if k < b + bytes.length then writeBytes memory b bytes k
      else writeBytes memory (b + bytes.length) more k := by
  by_cases early : k < b
  · rw [writeBytes_before _ early, if_pos (by omega), writeBytes_before _ early]
  · obtain ⟨i, rfl⟩ := Nat.exists_eq_add_of_le (Nat.le_of_not_lt early)
    by_cases first : i < bytes.length
    · simp [writeBytes, first, List.getElem?_append_left]
    · simp [writeBytes, first, List.getElem?_append_right, Nat.le_of_not_lt first,
        Nat.add_sub_add_left]

theorem writeBytes_append (memory : Memory) (b : Nat) (bytes more : List UInt8) :
    writeBytes (writeBytes memory b bytes) (b + bytes.length) more =
      writeBytes memory b (bytes ++ more) := by
  funext k
  rw [writeBytes_split]
  split_ifs with first
  · rw [writeBytes_before _ first]
  · rw [writeBytes, writeBytes_beyond memory (Nat.le_of_not_lt first), writeBytes]

theorem writeBytes_prepend (memory : Memory) (b : Nat) (bytes more : List UInt8) :
    writeBytes (writeBytes memory (b + bytes.length) more) b bytes =
      writeBytes memory b (bytes ++ more) := by
  funext k
  rw [writeBytes_split]
  split_ifs with first
  · rw [writeBytes, writeBytes_before memory first, writeBytes]
  · rw [writeBytes_beyond _ (Nat.le_of_not_lt first)]

theorem readBytes_writeBytes (memory : Memory) (b : Nat) (before bytes behind : List UInt8) :
    readBytes (writeBytes memory b (before ++ bytes ++ behind)) (b + before.length) bytes.length =
      bytes := by
  apply List.ext_getElem
  · rw [readBytes_length]
  · intro k read inside
    have written : before.length + k < (before ++ bytes ++ behind).length := by
      simp only [List.length_append]
      omega
    simp only [readBytes, List.getElem_map, List.getElem_range, Nat.add_assoc]
    rw [writeBytes_inside memory b written]
    simp [List.getElem_append_right, inside]

theorem ntohs_lt (memory : Memory) (p : Nat) : ntohs memory p < 2 ^ 16 := by
  have high := (memory p).toNat_lt
  have low := (memory (p + 1)).toNat_lt
  rw [ntohs]
  omega

end L2tpns.Avp
