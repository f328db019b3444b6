import L2tpns.Ppp.Login
import L2tpns.Radius.TunnelPassword
import Mathlib.Data.List.TakeWhile

/-! # User passwords

`radiussend` copies the password of a user to a buffer, pads it with zeros to whole blocks
and masks the blocks in place, each with the digest of the secret and of the block that was
masked before it, the first with that of the secret and the authenticator. What the server
gets back from the attribute is the padded password
(`L2tpns.Radius.userPassword_hides`).
-/

namespace L2tpns.Radius

open Foundation Function
open Avp (Memory readBytes readBytes_append readBytes_congr readBytes_getElem? writeBytes)
open Server (cString papLogin maxUser)

/-- `sizeof(pass)`, and of the field of the request slot. -/
def passSize : Nat := 129

/-- Pad with zeros; none if that leaves the buffer. -/
def padPass (pass : Memory) (pl : Nat) : Option (Memory × Nat) :=
  if pl % 16 = 0 then some (pass, pl)
  else if passSize ≤ pl then none
  else padPass (Function.update pass pl 0) (pl + 1)
termination_by passSize - pl

/-- Mask bytes up to the end of the block. -/
def maskRest (hash : Fin 16 → UInt8) (pass : Memory) (p : Nat) : Memory × Nat :=
  let masked := Function.update pass p (pass p ^^^ hash (Fin.ofNat 16 p))
  if (p + 1) % 16 = 0 then (masked, p + 1) else maskRest hash masked (p + 1)
termination_by 15 - p % 16

theorem lt_maskRest (hash : Fin 16 → UInt8) (pass : Memory) (p : Nat) :
    p < (maskRest hash pass p).2 := by
  rw [maskRest]
  by_cases last : (p + 1) % 16 = 0
  · simp only [last, ↓reduceIte]
    omega
  · simp only [last, ↓reduceIte]
    have := lt_maskRest hash
      (update pass p (pass p ^^^ hash (Fin.ofNat 16 p))) (p + 1)
    omega
termination_by 15 - p % 16

/-- Mask the blocks from the one at `p` on; none if that leaves the buffer. -/
def maskPass (config : Config) (auth : List UInt8) (pl : Nat) (pass : Memory) (p : Nat) :
    Option Memory :=
  if p < pl then
    if passSize < p + 16 then none
    else
      let hash := config.md5 (config.radiussecret ++
        (if p = 0 then auth else readBytes pass (p - 16) 16))
      let masked := maskRest hash pass p
      maskPass config auth pl masked.1 masked.2
  else some pass
termination_by pl - p
decreasing_by
  rename_i below _
  exact Nat.sub_lt_sub_left below (lt_maskRest _ pass p)

/-- The value of the User-Password attribute for what the slot holds; `stack` is what the
buffer holds before. None if an access is outside of the buffer. -/
def userPassword (config : Config) (auth stored : List UInt8) (stack : Memory) :
    Option (List UInt8) :=
  let text := cString stored
  if passSize ≤ text.length then none
  else
    match padPass (writeBytes stack 0 (text ++ [0])) text.length with
    | none => none
    | some (pass, pl) => (maskPass config auth pl pass 0).map fun pass => readBytes pass 0 pl

variable {config : Config} {pass : Memory}

/-- A whole number of blocks that is not less. -/
def blocksLength (n : Nat) : Nat := 16 * ((n + 15) / 16)

theorem padPass_eq (pass : Memory) (text : List UInt8) (fits : text.length ≤ 128)
    (held : readBytes pass 0 text.length = text) :
    ∃ padded, padPass pass text.length = some (padded, blocksLength text.length) ∧
      readBytes padded 0 (blocksLength text.length) =
        text ++ List.replicate (blocksLength text.length - text.length) 0 := by
  rw [padPass]
  by_cases whole : text.length % 16 = 0
  · have same : blocksLength text.length = text.length := by
      rw [blocksLength]
      omega
    refine ⟨pass, by rw [if_pos whole, same], ?_⟩
    rw [same, held, Nat.sub_self, List.replicate_zero, List.append_nil]
  · have longer : blocksLength (text ++ [0]).length = blocksLength text.length := by
      simp only [blocksLength, List.length_append, List.length_singleton]
      omega
    have more : text.length < blocksLength text.length := by
      rw [blocksLength]
      omega
    have stored : readBytes (update pass text.length 0) 0 (text ++ [0]).length =
        text ++ [0] := by
      rw [List.length_append, readBytes_append]
      congr 1
      · refine Eq.trans (readBytes_congr fun k inside => ?_) held
        exact update_of_ne (by omega) ..
      · simp [readBytes]
    obtain ⟨padded, runs, reads⟩ := padPass_eq (update pass text.length 0)
      (text ++ [0]) (by simp only [List.length_append, List.length_singleton]; omega) stored
    rw [longer] at runs reads
    refine ⟨padded, ?_, ?_⟩
    · rw [if_neg whole, if_neg (by simp only [passSize]; omega)]
      rw [List.length_append] at runs
      exact runs
    · rw [reads, List.append_assoc]
      congr 1
      rw [List.singleton_append, ← List.replicate_succ]
      congr 1
      simp only [List.length_append, List.length_singleton]
      omega
termination_by 128 - text.length

theorem maskRest_eq (hash : Fin 16 → UInt8) (pass : Memory) (p : Nat) :
    (maskRest hash pass p).2 = 16 * (p / 16 + 1) ∧
      ∀ j, (maskRest hash pass p).1 j =
        if p ≤ j ∧ j < 16 * (p / 16 + 1) then pass j ^^^ hash (Fin.ofNat 16 j) else pass j := by
  rw [maskRest]
  by_cases last : (p + 1) % 16 = 0
  · simp only [last, ↓reduceIte]
    refine ⟨by omega, fun j => ?_⟩
    by_cases here : j = p
    · subst here
      rw [update_self, if_pos (by omega)]
    · rw [update_of_ne here, if_neg (by omega)]
  · simp only [last, ↓reduceIte]
    obtain ⟨ends, masked⟩ := maskRest_eq hash
      (update pass p (pass p ^^^ hash (Fin.ofNat 16 p))) (p + 1)
    have same : (p + 1) / 16 = p / 16 := by omega
    rw [same] at ends masked
    refine ⟨ends, fun j => ?_⟩
    rw [masked j]
    by_cases here : j = p
    · subst here
      rw [if_neg (by omega), update_self, if_pos (by omega)]
    · rw [update_of_ne here]
      by_cases behind : p + 1 ≤ j ∧ j < 16 * (p / 16 + 1)
      · rw [if_pos behind, if_pos (by omega)]
      · rw [if_neg behind, if_neg (by omega)]
termination_by 15 - p % 16

theorem maskRest_block {p : Nat} {block : List UInt8} (hash : Fin 16 → UInt8)
    (start : p % 16 = 0) (held : readBytes pass p 16 = block) :
    (maskRest hash pass p).2 = p + 16 ∧
      readBytes (maskRest hash pass p).1 p 16 = (hidingChain config).maskBlock hash block ∧
      ∀ j, j < p ∨ p + 16 ≤ j → (maskRest hash pass p).1 j = pass j := by
  obtain ⟨ends, masked⟩ := maskRest_eq hash pass p
  have whole : block.length = 16 := by
    rw [← held, Avp.readBytes_length]
  refine ⟨by rw [ends]; omega, ?_, fun j apart => ?_⟩
  · apply List.ext_getElem
    · rw [Avp.readBytes_length, Feedback.maskBlock_length (by omega), whole]
    · intro k read inside
      have below : k < 16 := by rwa [Avp.readBytes_length] at read
      have stored := readBytes_getElem? held
        (List.getElem?_eq_getElem (show k < block.length by omega))
      rw [Feedback.maskBlock_getElem k inside (by omega) below]
      simp only [readBytes, List.getElem_map, List.getElem_range]
      rw [masked, if_pos (by omega), stored]
      refine congrArg (fun i => block[k] ^^^ hash i) (Fin.ext ?_)
      simp only [Fin.ofNat]
      omega
  · rw [masked, if_neg (by omega)]

/-- **All blocks** are masked after the block before them. -/
theorem maskPass_hide (auth : List UInt8) (blocks p : Nat) (pass : Memory) (text : List UInt8)
    (start : p % 16 = 0) (whole : text.length = 16 * blocks) (fits : p + 16 * blocks < passSize)
    (held : readBytes pass p text.length = text) :
    ∃ masked, maskPass config auth (p + 16 * blocks) pass p = some masked ∧
      readBytes masked p text.length =
        (hidingChain config).hide (config.md5 (config.radiussecret ++
          (if p = 0 then auth else readBytes pass (p - 16) 16))) text ∧
      ∀ j, j < p → masked j = pass j := by
  induction blocks generalizing p pass text with
  | zero =>
      obtain rfl : text = [] := List.eq_nil_of_length_eq_zero whole
      refine ⟨pass, ?_, ?_, fun _ _ => rfl⟩
      · rw [maskPass, if_neg (by omega)]
      · rw [Feedback.hide_nil]
        rfl
  | succ blocks ih =>
      obtain ⟨block, rest, rfl, size⟩ : ∃ block rest, text = block ++ rest ∧
          block.length = 16 :=
        ⟨text.take 16, text.drop 16, (List.take_append_drop 16 text).symm, by
          rw [List.length_take]
          omega⟩
      rw [List.length_append, size] at whole
      rw [List.length_append, size, readBytes_append] at held
      obtain ⟨first, later⟩ := List.append_inj held (by rw [Avp.readBytes_length, size])
      obtain ⟨hash, made⟩ : ∃ hash, hash = config.md5 (config.radiussecret ++
        (if p = 0 then auth else readBytes pass (p - 16) 16)) := ⟨_, rfl⟩
      obtain ⟨ends, hidden, kept⟩ := @maskRest_block config pass p block hash start first
      have ahead : readBytes (maskRest hash pass p).1 (p + 16) rest.length = rest := by
        refine Eq.trans (readBytes_congr fun k inside => ?_) later
        exact kept _ (.inr (by omega))
      obtain ⟨masked, runs, tail, below⟩ := ih (p + 16) (maskRest hash pass p).1 rest (by omega)
        (by omega) (by omega) ahead
      rw [if_neg (by omega), Nat.add_sub_cancel, hidden] at tail
      refine ⟨masked, ?_, ?_, fun j before => ?_⟩
      · rw [maskPass, if_pos (by omega), if_neg (by omega), ← made]
        simp only [ends]
        rw [show p + 16 * (blocks + 1) = p + 16 + 16 * blocks by omega]
        exact runs
      · rw [List.length_append, size, readBytes_append, tail, ← made, Feedback.hide_append _ size]
        congr 1
        rw [← hidden]
        exact readBytes_congr fun k inside => below _ (by omega)
      · rw [below j (by omega), kept j (.inl before)]

/-- The attribute has whole blocks, and reveals the stored string, padded. -/
theorem userPassword_reveals (auth stored : List UInt8) (stack : Memory)
    (short : (cString stored).length ≤ 128) :
    ∃ value, userPassword config auth stored stack = some value ∧
      value.length = blocksLength (cString stored).length ∧
      (hidingChain config).reveal (config.md5 (config.radiussecret ++ auth)) value =
        cString stored ++
          List.replicate (blocksLength (cString stored).length - (cString stored).length) 0 := by
  rw [userPassword]
  generalize cString stored = text at short ⊢
  have held : readBytes (writeBytes stack 0 (text ++ [0])) 0 text.length = text :=
    readBytes_written stack [] text [0]
  obtain ⟨padded, pads, reads⟩ := padPass_eq _ text short held
  obtain ⟨blocks, size⟩ : ∃ blocks, blocksLength text.length = 16 * blocks := ⟨_, rfl⟩
  have bound : 16 * blocks ≤ 128 := by
    rw [← size, blocksLength]
    omega
  have below : text.length ≤ blocksLength text.length := by
    rw [blocksLength]
    omega
  have length : (text ++ List.replicate (blocksLength text.length - text.length) 0).length =
      16 * blocks := by
    rw [List.length_append, List.length_replicate]
    omega
  obtain ⟨masked, masks, hidden, -⟩ := @maskPass_hide config auth blocks 0 padded _ rfl length
    (by simp only [passSize]; omega) (by rw [length, ← size]; exact reads)
  rw [Nat.zero_add, ← size] at masks
  rw [length, ← size, if_pos rfl] at hidden
  refine ⟨readBytes masked 0 (blocksLength text.length), ?_, ?_, ?_⟩
  · rw [if_neg (by simp only [passSize]; omega), pads]
    simp only [masks, Option.map_some]
  · rw [Avp.readBytes_length]
  · rw [hidden, Feedback.reveal_hide]

end L2tpns.Radius
