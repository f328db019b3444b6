import L2tpns.Avp.Termination
import L2tpns.Foundation.Feedback

/-! # Hidden attributes

The peer hides the value of an AVP with its length before it and padding behind it: the
first pad is the digest of the type, the secret and the random vector, each later pad that
of the secret and the sixteen bytes that were hidden before. `unhide_value` deciphers in
place, so what it takes the later pads from is already deciphered; it hides a second time
(`L2tpns.Avp.unhideValue_eq`). That gets the value back if the pads coincide, and whatever
the digest is only for one block (`L2tpns.Avp.unhides_iff`).
-/

namespace L2tpns.Avp

open Foundation

theorem xor_xor (byte key : UInt8) : byte ^^^ key ^^^ key = byte := by
  rw [UInt8.xor_assoc, UInt8.xor_self, UInt8.xor_zero]

theorem xor_injective (byte : UInt8) : Function.Injective (byte ^^^ ·) := by
  intro key other same
  have cancel (k : UInt8) : byte ^^^ (byte ^^^ k) = k := by
    rw [← UInt8.xor_assoc, UInt8.xor_self, UInt8.zero_xor]
  rw [← cancel key, ← cancel other]
  exact congrArg (byte ^^^ ·) same

theorem digest_pos : 0 < 16 := by decide

/-- How the pads follow from the hidden bytes. -/
def hidingChain (config : Config) : Feedback UInt8 16 where
  mask byte key := byte ^^^ key
  pad block := config.md5 (config.l2tpSecret ++ block)
  mask_mask := xor_xor
  mask_injective := xor_injective
  size_pos := digest_pos

def firstPad (config : Config) (mtype : Nat) (vector : List UInt8) : Fin 16 → UInt8 :=
  config.md5 ([UInt8.ofNat (mtype / 2 ^ 8), UInt8.ofNat mtype] ++ config.l2tpSecret ++ vector)

/-- The length of the value, the value and the padding. -/
def subformat (value padding : List UInt8) : List UInt8 :=
  [UInt8.ofNat (value.length / 2 ^ 8), UInt8.ofNat value.length] ++ value ++ padding

/-- What the peer puts in place of the value. -/
def hiddenForm (config : Config) (vector : List UInt8) (mtype : Nat)
    (value padding : List UInt8) : List UInt8 :=
  (hidingChain config).hide (firstPad config mtype vector) (subformat value padding)

variable {config : Config} {vector value padding : List UInt8} {mtype : Nat}

theorem pad_drop (digest : Fin 16 → UInt8) (d : Nat) (within : d < 16) :
    (List.ofFn digest).drop d =
      digest (Fin.ofNat 16 d) :: (List.ofFn digest).drop (d + 1) := by
  rw [List.drop_eq_getElem_cons (by simp [within]), List.getElem_ofFn]
  congr
  exact (Nat.mod_eq_of_lt within).symm

theorem unhideFrom_eq (bytes : List UInt8) (digest : Fin 16 → UInt8) (d : Nat)
    (block : List UInt8) (within : d ≤ 16) :
    unhideFrom config bytes digest d block =
      List.zipWith (· ^^^ ·) (bytes.take (16 - d)) ((List.ofFn digest).drop d) ++
        (hidingChain config).hide (config.md5 (config.l2tpSecret ++ (block ++
          List.zipWith (· ^^^ ·) (bytes.take (16 - d)) ((List.ofFn digest).drop d))))
          (bytes.drop (16 - d)) := by
  induction bytes generalizing digest d block with
  | nil => simp [unhideFrom, Feedback.hide_nil]
  | cons byte rest ih =>
      rw [unhideFrom]
      by_cases full : 16 ≤ d
      · -- the pad is used up: a new block begins with this byte
        obtain rfl : d = 16 := Nat.le_antisymm within full
        simp only [Nat.le_refl, ↓reduceIte, Nat.sub_self, List.take_zero, List.zipWith_nil_left,
          List.nil_append, List.append_nil, List.drop_zero]
        have start := pad_drop (config.md5 (config.l2tpSecret ++ block)) 0 (by omega)
        rw [List.drop_zero] at start
        rw [ih _ 1 _ (by omega)]
        conv_rhs => rw [Feedback.hide_step]
        rw [List.take_succ_cons, List.drop_succ_cons, Feedback.maskBlock, start]
        rfl
      · have inside : d < 16 := Nat.not_le.mp full
        simp only [full, ↓reduceIte]
        rw [ih digest (d + 1) _ inside, pad_drop digest d inside,
          show 16 - d = 16 - (d + 1) + 1 by omega, List.take_succ_cons, List.drop_succ_cons,
          List.zipWith_cons_cons, List.append_assoc, List.singleton_append, List.cons_append]

theorem unhideValue_eq (bytes : List UInt8) :
    unhideValue config bytes mtype vector =
      (hidingChain config).hide (firstPad config mtype vector) bytes := by
  rw [unhideValue, unhideFrom_eq _ _ _ _ (Nat.zero_le 16)]
  conv_rhs => rw [Feedback.hide_step]
  rfl

theorem hiddenForm_length : (hiddenForm config vector mtype value padding).length =
    2 + value.length + padding.length := by
  rw [hiddenForm, Feedback.hide_length]
  simp only [subformat, List.length_append, List.length_cons, List.length_nil]

theorem unhideValue_hiddenForm :
    unhideValue config (hiddenForm config vector mtype value padding) mtype vector =
        subformat value padding ↔
      (hidingChain config).Coincides (firstPad config mtype vector)
        (subformat value padding) := by
  rw [unhideValue_eq, hiddenForm, Feedback.hide_hide_iff]
  simp

/-- At `p` there is an AVP with the hidden bit and these bytes in place of its value. -/
structure HiddenAt (memory : Memory) (p mtype : Nat) (hidden : List UInt8) : Prop where
  flagged : memory p &&& 0x40 ≠ 0
  reserved : memory p &&& 0x3C = 0
  length : avpLength memory p = 6 + hidden.length
  vendor : ntohs memory (p + 2) = 0
  type : ntohs memory (p + 4) = mtype
  value : readBytes memory (p + 6) hidden.length = hidden

def ReadsValue (config : Config) (room : Nat) (vector : List UInt8) (memory : Memory)
    (p mtype : Nat) (value : List UInt8) : Prop :=
  ∃ b plain,
    readAvp config room vector memory p (avpLength memory p) =
      .value mtype b value.length plain ∧
    readBytes (writeBytes memory (p + 6) plain) b value.length = value

/-- What the peer has hidden is deciphered, and wherever in a message it is, its value is
read. -/
def Unhides (config : Config) (vector : List UInt8) (mtype : Nat) (value padding : List UInt8) :
    Prop :=
  unhideValue config (hiddenForm config vector mtype value padding) mtype vector =
    subformat value padding ∧
  ∀ room memory p, p + 6 + (2 + value.length + padding.length) ≤ room →
    HiddenAt memory p mtype (hiddenForm config vector mtype value padding) →
    ReadsValue config room vector memory p mtype value

theorem ntohs_subformat (memory : Memory) (b : Nat) (short : value.length < 2 ^ 16) :
    ntohs (writeBytes memory b (subformat value padding)) b = value.length := by
  have high := @writeBytes_inside memory b (subformat value padding) 0 (by simp [subformat])
  have low := @writeBytes_inside memory b (subformat value padding) 1 (by simp [subformat])
  rw [Nat.add_zero] at high
  rw [ntohs, high, low]
  simp only [subformat, List.cons_append, List.getElem_cons_zero, List.getElem_cons_succ,
    UInt8.toNat_ofNat']
  omega

theorem readsValue_of_hiddenAt {room p : Nat} {memory : Memory} {hidden : List UInt8}
    (secret : config.l2tpSecret ≠ []) (random : vector ≠ [])
    (short : value.length < 2 ^ 16) (long : 8 ≤ hidden.length)
    (size : hidden.length = 2 + value.length + padding.length)
    (plain : unhideValue config hidden mtype vector = subformat value padding)
    (inside : p + 6 + hidden.length ≤ room) (found : HiddenAt memory p mtype hidden) :
    ReadsValue config room vector memory p mtype value := by
  have bound : avpLength memory p < 2 ^ 10 := Nat.mod_lt _ (by decide)
  have length : withoutHeader (avpLength memory p) = hidden.length := by
    rw [withoutHeader, found.length]
    rw [found.length] at bound
    omega
  refine ⟨p + 8, subformat value padding, ?_, ?_⟩
  · rw [readAvp]
    simp only [found.reserved, found.vendor, found.flagged, found.type, length, ne_eq,
      not_true_eq_false, not_false_eq_true, ↓reduceIte]
    rw [readHidden]
    simp only [secret, random, Nat.not_lt.mpr long, Nat.not_lt.mpr inside, found.value, plain,
      ntohs_subformat memory (p + 6) short, ↓reduceIte]
    rw [if_neg (by omega)]
  · exact readBytes_writeBytes memory (p + 6)
      [UInt8.ofNat (value.length / 2 ^ 8), UInt8.ofNat value.length] value padding

/-- An AVP of these bytes, alone in memory. -/
def hiddenAvp (mtype : Nat) (hidden : List UInt8) : Memory := fun k =>
  ([0x40, UInt8.ofNat (6 + hidden.length), 0, 0, UInt8.ofNat (mtype / 2 ^ 8),
    UInt8.ofNat mtype] ++ hidden).getD k 0

theorem hiddenAvp_hiddenAt {hidden : List UInt8} (typed : mtype < 2 ^ 16)
    (few : hidden.length < 8) : HiddenAt (hiddenAvp mtype hidden) 0 mtype hidden where
  flagged := by simp [hiddenAvp]
  reserved := by
    simp only [hiddenAvp, List.cons_append, List.getD_cons_zero]
    decide
  length := by
    simp only [avpLength, ntohs, hiddenAvp]
    simp
    omega
  vendor := by simp [ntohs, hiddenAvp]
  type := by
    simp only [ntohs, hiddenAvp]
    simp
    omega
  value := by
    apply List.ext_getElem
    · rw [readBytes_length]
    · intro k read inside
      simp only [readBytes, List.getElem_map, List.getElem_range]
      simp [hiddenAvp, inside, Nat.add_comm]

theorem unhides_of_coincides (secret : config.l2tpSecret ≠ []) (random : vector ≠ [])
    (short : value.length < 2 ^ 16) (long : 8 ≤ 2 + value.length + padding.length)
    (coincides : (hidingChain config).Coincides (firstPad config mtype vector)
      (subformat value padding)) :
    Unhides config vector mtype value padding := by
  have plain := unhideValue_hiddenForm.mpr coincides
  refine ⟨plain, fun room memory p inside found => ?_⟩
  have size := @hiddenForm_length config vector value padding mtype
  exact readsValue_of_hiddenAt secret random short (by omega) size plain (by omega) found

theorem coincides_of_unhides (typed : mtype < 2 ^ 16)
    (secret : config.l2tpSecret ≠ []) (random : vector ≠ [])
    (unhides : Unhides config vector mtype value padding) :
    8 ≤ 2 + value.length + padding.length ∧
      (hidingChain config).Coincides (firstPad config mtype vector)
        (subformat value padding) := by
  refine ⟨?_, unhideValue_hiddenForm.mp unhides.1⟩
  by_contra few
  have size := @hiddenForm_length config vector value padding mtype
  have found := @hiddenAvp_hiddenAt mtype (hiddenForm config vector mtype value padding) typed
    (by omega)
  obtain ⟨b, plain, reads, -⟩ := unhides.2 (14 + value.length + padding.length) _ 0 (by omega) found
  have bound : avpLength (hiddenAvp mtype (hiddenForm config vector mtype value padding)) 0 <
    2 ^ 10 := Nat.mod_lt _ (by decide)
  have length : withoutHeader (avpLength (hiddenAvp mtype
      (hiddenForm config vector mtype value padding)) 0) < 8 := by
    rw [withoutHeader, found.length]
    omega
  rw [readAvp] at reads
  simp only [found.reserved, found.vendor, found.flagged, ne_eq, not_true_eq_false,
    not_false_eq_true, ↓reduceIte] at reads
  rw [readHidden] at reads
  simp only [secret, random, length, ↓reduceIte] at reads
  cases reads

/-- A digest that tells a block from the block that it is hidden as, with a first pad that
changes the block. -/
def tellsApart (first plain : List UInt8) : List UInt8 → Fin 16 → UInt8 := fun bytes _ =>
  if bytes = plain ↔ plain = first then 1 else 0

theorem tellsApart_first (first plain : List UInt8) (k : Fin 16) :
    tellsApart first plain first k = 1 := by
  simp only [tellsApart]
  rw [if_pos ⟨Eq.symm, Eq.symm⟩]

theorem tellsApart_other (first plain masked : List UInt8) (other : masked ≠ plain) (k : Fin 16) :
    tellsApart first plain plain k ≠ tellsApart first plain masked k := by
  by_cases same : plain = first <;> simp [tellsApart, same, other]
  simp [← same, other]

/-- A longer value is not deciphered with every digest. -/
theorem short_of_unhides (unhides : ∀ md5, Unhides { config with md5 := md5 } vector mtype value
    padding) : 2 + value.length + padding.length ≤ 16 := by
  by_contra long
  let text := subformat value padding
  have length : text.length = 2 + value.length + padding.length := by
    simp only [text, subformat, List.length_append, List.length_cons, List.length_nil]
  let first := [UInt8.ofNat (mtype / 2 ^ 8), UInt8.ofNat mtype] ++ config.l2tpSecret ++ vector
  let plain := config.l2tpSecret ++ text.take 16
  let apart : Config := { config with md5 := tellsApart first plain }
  have coincides := unhideValue_hiddenForm.mp (unhides apart.md5).1
  rw [Feedback.Coincides, if_pos (show 16 < text.length by omega)] at coincides
  have same := coincides.1 0 (show 0 < text.length - 16 by omega)
  refine tellsApart_other first plain (config.l2tpSecret ++
    (hidingChain apart).maskBlock (firstPad apart mtype vector) (text.take 16)) ?_ 0 same
  intro equal
  have block : (text.take 16).length = 16 := by
    rw [List.length_take]
    omega
  have kept := List.append_cancel_left equal
  have masked := @Feedback.maskBlock_getElem _ _ (hidingChain apart) (firstPad apart mtype vector)
    (text.take 16) 0 (by rw [kept]; omega) (by omega) (by decide)
  simp only [kept] at masked
  have changed : (hidingChain apart).mask (text.take 16)[0] (firstPad apart mtype vector 0) =
      (text.take 16)[0] ^^^ 1 :=
    congrArg ((text.take 16)[0] ^^^ ·) (tellsApart_first first plain 0)
  have unchanged : (text.take 16)[0] = (text.take 16)[0] ^^^ 1 := masked.trans changed
  have zero := congrArg ((text.take 16)[0] ^^^ ·) unchanged
  simp only [UInt8.xor_self, ← UInt8.xor_assoc, UInt8.zero_xor] at zero
  exact absurd zero (by decide)

/-- **Deciphering.** What the peer has hidden is got back exactly if it is no short AVP and
each pad behind the first is the same from the deciphered block as from the hidden one;
whatever the digest is, exactly if it is no short AVP and fits into one block. -/
theorem unhides_iff (secret : config.l2tpSecret ≠ []) (random : vector ≠ [])
    (typed : mtype < 2 ^ 16) (short : value.length < 2 ^ 16) :
    (Unhides config vector mtype value padding ↔
      8 ≤ 2 + value.length + padding.length ∧
        (hidingChain config).Coincides (firstPad config mtype vector)
          (subformat value padding)) ∧
    ((∀ md5, Unhides { config with md5 := md5 } vector mtype value padding) ↔
      8 ≤ 2 + value.length + padding.length ∧ 2 + value.length + padding.length ≤ 16) := by
  refine ⟨⟨coincides_of_unhides typed secret random, fun ⟨long, coincides⟩ =>
    unhides_of_coincides secret random short long coincides⟩, fun unhides => ?_,
    fun ⟨long, fits⟩ md5 => ?_⟩
  · exact ⟨(coincides_of_unhides typed secret random (unhides config.md5)).1,
      short_of_unhides unhides⟩
  · refine unhides_of_coincides secret random short long (Feedback.coincides_of_short ?_)
    simp only [subformat, List.length_append, List.length_cons, List.length_nil]
    omega

def lastByteConfig : Config where
  l2tpSecret := [115]
  md5 bytes _ := bytes.getLastD 0

/-- A host name of one block with its length. -/
theorem unhides_block :
    lastByteConfig.l2tpSecret ≠ [] ∧
      Unhides lastByteConfig [1, 2, 3, 4] 7 (List.replicate 14 104) [] :=
  ⟨by decide, (unhides_iff (by decide) (by decide) (by decide) (by decide)).1.mpr
    ⟨by decide, Feedback.coincides_of_short (by decide)⟩⟩

/-- Of a host name of twenty bytes the second block is not deciphered. -/
theorem unhides_fails : ¬ ∀ (config : Config) (vector : List UInt8) (mtype : Nat)
    (value padding : List UInt8), config.l2tpSecret ≠ [] → vector ≠ [] → mtype < 2 ^ 16 →
    value.length < 2 ^ 16 → Unhides config vector mtype value padding := by
  intro always
  have unhides := always lastByteConfig [1, 2, 3, 4] 7 (List.replicate 20 104) [] (by decide)
    (by decide) (by decide) (by decide)
  have coincides := unhideValue_hiddenForm.mp unhides.1
  rw [Feedback.Coincides, if_pos (by decide)] at coincides
  exact absurd (coincides.1 0 (by decide)) (by decide)

end L2tpns.Avp
