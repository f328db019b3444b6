import Mathlib.Data.List.OfFn

/-! # Masking by blocks with feedback

A text is masked a block at a time: the first block with a given pad, every later one with a
pad that is computed from the block before it. If the pads come from the masked blocks, the
text is hidden, and who knows how to compute them gets it back
(`Foundation.Feedback.reveal_hide`). Who computes them from the blocks that were
revealed so far gets it back only where the two pads coincide
(`Foundation.Feedback.hide_hide_iff`).
-/

namespace Foundation

/-- How symbols are masked, and the pad that follows a block. -/
structure Feedback (Symbol : Type) (size : Nat) where
  mask : Symbol → Symbol → Symbol
  pad : List Symbol → Fin size → Symbol
  mask_mask : ∀ symbol key, mask (mask symbol key) key = symbol
  mask_injective : ∀ symbol, Function.Injective (mask symbol)
  size_pos : 0 < size

namespace Feedback

variable {Symbol : Type} {size : Nat} (chain : Feedback Symbol size)
variable {pad other : Fin size → Symbol} {text : List Symbol}

/-- A block masked with a pad, which may be longer. -/
def maskBlock (pad : Fin size → Symbol) (block : List Symbol) : List Symbol :=
  List.zipWith chain.mask block (List.ofFn pad)

/-- Mask a text; the pads come from the masked blocks. -/
def hide (pad : Fin size → Symbol) (text : List Symbol) : List Symbol :=
  if 0 < text.length then
    let block := chain.maskBlock pad (text.take size)
    block ++ hide (chain.pad block) (text.drop size)
  else []
termination_by text.length
decreasing_by
  have := chain.size_pos
  simp only [List.length_drop]
  omega

/-- Unmask a text; the pads come from the blocks as they are given. -/
def reveal (pad : Fin size → Symbol) (text : List Symbol) : List Symbol :=
  if 0 < text.length then
    chain.maskBlock pad (text.take size) ++
      reveal (chain.pad (text.take size)) (text.drop size)
  else []
termination_by text.length
decreasing_by
  have := chain.size_pos
  simp only [List.length_drop]
  omega

/-- The pad after each block is the same, computed from the block or from the masked block,
as far as it is used. -/
def Coincides (pad : Fin size → Symbol) (text : List Symbol) : Prop :=
  if size < text.length then
    let masked := chain.maskBlock pad (text.take size)
    (∀ k : Fin size, k < text.length - size →
      chain.pad (text.take size) k = chain.pad masked k) ∧
      Coincides (chain.pad masked) (text.drop size)
  else True
termination_by text.length
decreasing_by
  have := chain.size_pos
  simp only [List.length_drop]
  omega

variable {chain}

theorem maskBlock_length (short : text.length ≤ size) :
    (chain.maskBlock pad text).length = text.length := by
  simp [maskBlock, short]

theorem maskBlock_getElem (k : Nat) (masked : k < (chain.maskBlock pad text).length)
    (inside : k < text.length) (bound : k < size) :
    (chain.maskBlock pad text)[k] = chain.mask text[k] (pad ⟨k, bound⟩) := by
  simp [maskBlock]

theorem maskBlock_maskBlock (short : text.length ≤ size) :
    chain.maskBlock pad (chain.maskBlock pad text) = text := by
  have once : (chain.maskBlock pad text).length = text.length := maskBlock_length short
  apply List.ext_getElem
  · rw [maskBlock_length (by omega), once]
  · intro k masked inside
    rw [maskBlock_getElem k masked (by omega) (by omega),
      maskBlock_getElem k (by omega) inside (by omega), chain.mask_mask]

theorem maskBlock_eq_iff (short : text.length ≤ size) :
    chain.maskBlock other text = chain.maskBlock pad text ↔
      ∀ k : Fin size, k < text.length → other k = pad k := by
  constructor
  · intro same k inside
    have masked : k.val < (chain.maskBlock other text).length := by
      rw [maskBlock_length short]
      exact inside
    have masked' : k.val < (chain.maskBlock pad text).length := by
      rw [maskBlock_length short]
      exact inside
    apply chain.mask_injective text[k.val]
    rw [← maskBlock_getElem k.val masked inside k.isLt,
      ← maskBlock_getElem k.val masked' inside k.isLt]
    simp only [same]
  · intro same
    apply List.ext_getElem
    · rw [maskBlock_length short, maskBlock_length short]
    · intro k masked masked'
      have inside : k < text.length := by rwa [maskBlock_length short] at masked
      rw [maskBlock_getElem k masked inside (by omega),
        maskBlock_getElem k masked' inside (by omega), same ⟨k, by omega⟩ inside]

theorem take_short (text : List Symbol) : (text.take size).length ≤ size :=
  List.length_take_le size text

theorem hide_nil : chain.hide pad [] = [] := by
  rw [hide]
  simp

theorem hide_step (pad : Fin size → Symbol) (text : List Symbol) :
    chain.hide pad text =
      chain.maskBlock pad (text.take size) ++
        chain.hide (chain.pad (chain.maskBlock pad (text.take size))) (text.drop size) := by
  by_cases some : 0 < text.length
  · conv_lhs => rw [hide]
    simp only [some, ↓reduceIte]
  · have none : text = [] := List.eq_nil_of_length_eq_zero (by omega)
    simp [none, hide_nil, maskBlock]

theorem reveal_nil (pad : Fin size → Symbol) : chain.reveal pad [] = [] := by
  rw [reveal]
  simp

theorem reveal_step (pad : Fin size → Symbol) (text : List Symbol) :
    chain.reveal pad text =
      chain.maskBlock pad (text.take size) ++
        chain.reveal (chain.pad (text.take size)) (text.drop size) := by
  by_cases some : 0 < text.length
  · conv_lhs => rw [reveal]
    simp only [some, ↓reduceIte]
  · have none : text = [] := List.eq_nil_of_length_eq_zero (by omega)
    simp [none, reveal_nil, maskBlock]

theorem hide_block (short : text.length ≤ size) :
    chain.hide pad text = chain.maskBlock pad text := by
  rw [hide_step, List.take_of_length_le short, List.drop_of_length_le short, hide_nil,
    List.append_nil]

theorem hide_length (pad : Fin size → Symbol) (text : List Symbol) :
    (chain.hide pad text).length = text.length := by
  by_cases some : 0 < text.length
  · have less : text.length - size < text.length := by
      have := chain.size_pos
      omega
    rw [hide_step, List.length_append, maskBlock_length (take_short text), hide_length]
    simp only [List.length_take, List.length_drop]
    omega
  · have none : text = [] := List.eq_nil_of_length_eq_zero (by omega)
    rw [none, hide_nil]
termination_by text.length

theorem hide_append (block : List Symbol) (whole : block.length = size) (rest : List Symbol) :
    chain.hide pad (block ++ rest) =
      chain.maskBlock pad block ++ chain.hide (chain.pad (chain.maskBlock pad block)) rest := by
  rw [hide_step, List.take_left' whole, List.drop_left' whole]

theorem reveal_append (block : List Symbol) (whole : block.length = size) (rest : List Symbol) :
    chain.reveal pad (block ++ rest) =
      chain.maskBlock pad block ++ chain.reveal (chain.pad block) rest := by
  rw [reveal_step, List.take_left' whole, List.drop_left' whole]

theorem reveal_block (short : text.length ≤ size) :
    chain.reveal pad text = chain.maskBlock pad text := by
  rw [reveal_step, List.take_of_length_le short, List.drop_of_length_le short, reveal_nil,
    List.append_nil]

theorem coincides_of_short (short : text.length ≤ size) : chain.Coincides pad text := by
  rw [Coincides]
  simp [Nat.not_lt.mpr short]

/-- **Hiding is undone** with the pads that come from the hidden text. -/
theorem reveal_hide (pad : Fin size → Symbol) (text : List Symbol) :
    chain.reveal pad (chain.hide pad text) = text := by
  by_cases short : text.length ≤ size
  · rw [hide_block short, reveal_block (by rw [maskBlock_length short]; exact short),
      maskBlock_maskBlock short]
  · have less : text.length - size < text.length := by
      have := chain.size_pos
      omega
    have whole : (chain.maskBlock pad (text.take size)).length = size := by
      rw [maskBlock_length (take_short text), List.length_take]
      omega
    rw [hide_step, reveal_append _ whole, maskBlock_maskBlock (take_short text), reveal_hide,
      List.take_append_drop]
termination_by text.length

/-- **Hiding a hidden text** gives the text back exactly if the first pad is the same as far
as it is used, and the later ones coincide. -/
theorem hide_hide_iff (other pad : Fin size → Symbol) (text : List Symbol) :
    chain.hide other (chain.hide pad text) = text ↔
      (∀ k : Fin size, k < text.length → other k = pad k) ∧ chain.Coincides pad text := by
  by_cases short : text.length ≤ size
  · have masked : (chain.maskBlock pad text).length ≤ size := by
      rw [maskBlock_length short]
      exact short
    have same := @maskBlock_eq_iff _ _ chain pad other _ masked
    rw [maskBlock_maskBlock short, maskBlock_length short] at same
    rw [hide_block short, hide_block masked, same]
    simp [coincides_of_short short]
  · have less : text.length - size < text.length := by
      have := chain.size_pos
      omega
    have first : (text.take size).length = size := by
      rw [List.length_take]
      omega
    have whole : (chain.maskBlock pad (text.take size)).length = size := by
      rw [maskBlock_length (take_short text), first]
    have same := @maskBlock_eq_iff _ _ chain pad other _ (Nat.le_of_eq whole)
    rw [maskBlock_maskBlock (take_short text), whole] at same
    rw [hide_step pad text, hide_append _ whole]
    have lengths : (chain.maskBlock other (chain.maskBlock pad (text.take size))).length =
        (text.take size).length := by
      rw [maskBlock_length (Nat.le_of_eq whole), whole, first]
    have rest := hide_hide_iff (chain.pad (text.take size))
      (chain.pad (chain.maskBlock pad (text.take size))) (text.drop size)
    rw [List.length_drop] at rest
    rw [Coincides, if_pos (Nat.not_le.mp short), ← rest]
    constructor
    · intro back
      have parts := back.trans (List.take_append_drop size text).symm
      obtain ⟨block, tail⟩ := List.append_inj parts lengths
      rw [block] at tail
      exact ⟨fun k _ => same.mp block k k.isLt, tail⟩
    · intro ⟨agree, tail⟩
      have block := same.mpr fun k _ => agree k (by omega)
      rw [block, tail, List.take_append_drop]
termination_by text.length

end Feedback

end Foundation
