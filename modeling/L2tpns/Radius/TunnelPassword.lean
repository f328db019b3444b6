import L2tpns.Avp.Hiding

/-! # Tunnel passwords

An Access-Accept may carry the password of a tunnel: a salt of two bytes and, hidden with
the shared secret, the length of the password, the password and zeros up to a whole number
of blocks. `rad_tunnel_pwdecode` deciphers it in the buffer that it is in, three positions
before where it was, so it reads a block before it writes over it
(`L2tpns.Radius.tunnelPassword_decoded`).
-/

namespace L2tpns.Radius

open Foundation
open Avp (Memory readBytes readBytes_append readBytes_congr readBytes_getElem? writeBytes)

/-- What the digests are made from. -/
structure Config where
  radiussecret : List UInt8
  md5 : List UInt8 → Fin 16 → UInt8

/-- Room for a string that is taken from an attribute. -/
def strtempSize : Nat := 256

/-- The bytes of a block from `i` on, three positions to the front. -/
def decodeBytes (hash : Fin 16 → UInt8) (n i : Nat) : Nat → Memory → Memory
  | 0, memory => memory
  | count + 1, memory =>
      decodeBytes hash n (i + 1) count
        (Function.update memory (n + i - 1) (memory (n + i + 2) ^^^ hash (Fin.ofNat 16 i)))

/-- How a decoding goes: an access was outside of the buffer, or the length that is
returned, 0 for an error, and the buffer. -/
inductive Decoded where
  | outside
  | returned (length : Nat) (buffer : Memory)

/-- The blocks from the one at `n` on; `ctx` is what its digest is made from. None if an
access is outside of the buffer. -/
def decodeFrom (config : Config) (len n : Nat) (ctx : List UInt8) (buffer : Memory) :
    Option Memory :=
  if n < len then
    if strtempSize < n + 18 then none
    else
      decodeFrom config len (n + 16) (config.radiussecret ++ readBytes buffer (n + 2) 16)
        (if n = 0 then decodeBytes (config.md5 ctx) n 1 15 buffer
          else decodeBytes (config.md5 ctx) n 0 16 buffer)
  else some buffer
termination_by len - n

/-- `auth` is the authenticator of the request, `size` the number of bytes with the salt. -/
def radTunnelPwdecode (config : Config) (auth : List UInt8) (buffer : Memory) (size : Nat) :
    Decoded :=
  if size < 2 then .returned 0 buffer
  else if size ≤ 3 then .returned 0 (Function.update buffer 0 0)
  else
    let len := size - 2
    let ctx := config.radiussecret ++ auth ++ readBytes buffer 0 2
    let decodedlen := (buffer 2 ^^^ config.md5 ctx 0).toNat
    if len ≤ decodedlen then .returned 0 buffer
    else
      match decodeFrom config len 0 ctx buffer with
      | none => .outside
      | some decoded =>
          let length := min decodedlen 239
          .returned length (Function.update decoded length 0)

/-- A Tunnel-Password attribute, with its type, length and tag: the bytes behind the tag are
copied to a cleared buffer. None if the attribute is too short. -/
def processTunnelPassword (config : Config) (auth bytes : List UInt8) : Option Decoded :=
  if bytes.length < 5 then none
  else
    some (radTunnelPwdecode config auth (writeBytes (fun _ => 0) 0 (bytes.drop 3))
      (bytes.length - 3))

/-- How the pads follow from the hidden blocks. -/
def hidingChain (config : Config) : Feedback UInt8 16 where
  mask byte key := byte ^^^ key
  pad block := config.md5 (config.radiussecret ++ block)
  mask_mask byte key := Avp.xor_xor byte key
  mask_injective byte := Avp.xor_injective byte
  size_pos := Avp.digest_pos

/-- The length, the password, and zeros up to a whole number of blocks. -/
def padded (password : List UInt8) : List UInt8 :=
  UInt8.ofNat password.length :: password ++ List.replicate (15 - password.length % 16) 0

/-- The string of the attribute, without the salt. -/
def hiddenPassword (config : Config) (auth salt password : List UInt8) : List UInt8 :=
  (hidingChain config).hide (config.md5 (config.radiussecret ++ auth ++ salt)) (padded password)

/-- The attribute that the server sends. -/
def tunnelPassword (config : Config) (auth salt password : List UInt8) (tag : UInt8) :
    List UInt8 :=
  let string := hiddenPassword config auth salt password
  [69, UInt8.ofNat (5 + string.length), tag] ++ salt ++ string

variable {config : Config} {buffer : Memory}

theorem decodeBytes_apply (hash : Fin 16 → UInt8) (n i count : Nat) (start : 1 ≤ n + i)
    (buffer : Memory) (j : Nat) :
    decodeBytes hash n i count buffer j =
      if n + i ≤ j + 1 ∧ j + 1 < n + i + count then
        buffer (j + 3) ^^^ hash (Fin.ofNat 16 (j + 1 - n))
      else buffer j := by
  induction count generalizing i buffer with
  | zero =>
      rw [decodeBytes, if_neg (by omega)]
  | succ count ih =>
      rw [decodeBytes, ih (i + 1) (by omega)]
      by_cases here : j = n + i - 1
      · subst here
        rw [if_neg (by omega), if_pos (by omega), Function.update_self,
          show n + i - 1 + 3 = n + i + 2 by omega, show n + i - 1 + 1 - n = i by omega]
      · by_cases behind : n + (i + 1) ≤ j + 1 ∧ j + 1 < n + (i + 1) + count
        · rw [if_pos behind, if_pos (by omega), Function.update_of_ne (by omega)]
        · rw [if_neg behind, if_neg (by omega), Function.update_of_ne here]

/-- One block: the deciphered bytes are three positions before, and everything else is as it
was. -/
theorem decodeBlock_getElem? {n : Nat} {block : List UInt8} (digest : Fin 16 → UInt8)
    (held : readBytes buffer (n + 2) 16 = block) (decoded : Memory)
    (made : decoded = if n = 0 then decodeBytes digest n 1 15 buffer
      else decodeBytes digest n 0 16 buffer) :
    (∀ k byte, ((hidingChain config).maskBlock digest block)[k]? = some byte → 1 ≤ n + k →
      decoded (n + k - 1) = byte) ∧
    ∀ j, j + 1 < n ∨ n + 15 ≤ j → decoded j = buffer j := by
  have apply_eq (j : Nat) : decoded j =
      if n ≤ j + 1 ∧ j + 1 < n + 16 then buffer (j + 3) ^^^ digest (Fin.ofNat 16 (j + 1 - n))
      else buffer j := by
    by_cases first : n = 0
    · subst first
      rw [made, if_pos rfl, decodeBytes_apply digest 0 1 15 (by omega)]
      congr 1
      simp only [eq_iff_iff]
      omega
    · rw [made, if_neg first, decodeBytes_apply digest n 0 16 (by omega)]
      rfl
  have whole : block.length = 16 := by
    rw [← held, Avp.readBytes_length]
  constructor
  · intro k byte found later
    obtain ⟨inside, here⟩ := List.getElem?_eq_some_iff.mp found
    rw [Feedback.maskBlock_length (by omega), whole] at inside
    rw [Feedback.maskBlock_getElem k _ (by omega) inside] at here
    have stored := @readBytes_getElem? buffer (n + 2) 16 k block block[k] held
      (List.getElem?_eq_getElem _)
    rw [apply_eq, if_pos (by omega), show n + k - 1 + 3 = n + 2 + k by omega, stored,
      show n + k - 1 + 1 - n = k by omega, ← here]
    congr 2
    exact Fin.ext (Nat.mod_eq_of_lt inside)
  · intro j apart
    rw [apply_eq, if_neg (by omega)]

/-- **All blocks** are deciphered before they are written over. -/
theorem decodeFrom_reveal (blocks n : Nat) (ctx : List UInt8) (buffer : Memory)
    (cipher : List UInt8) (whole : cipher.length = 16 * blocks)
    (fits : n + 16 * blocks + 2 ≤ strtempSize)
    (held : readBytes buffer (n + 2) cipher.length = cipher) :
    ∃ decoded, decodeFrom config (n + 16 * blocks) n ctx buffer = some decoded ∧
      (∀ k byte, ((hidingChain config).reveal (config.md5 ctx) cipher)[k]? = some byte →
        1 ≤ n + k → decoded (n + k - 1) = byte) ∧
      ∀ j, j + 1 < n → decoded j = buffer j := by
  induction blocks generalizing n ctx buffer cipher with
  | zero =>
      obtain rfl : cipher = [] := List.eq_nil_of_length_eq_zero whole
      refine ⟨buffer, ?_, ?_, fun _ _ => rfl⟩
      · rw [decodeFrom, if_neg (by omega)]
      · intro k byte found
        rw [Feedback.reveal_block (by simp)] at found
        simp [Feedback.maskBlock] at found
  | succ blocks ih =>
      obtain ⟨block, rest, rfl, size⟩ : ∃ block rest, cipher = block ++ rest ∧
          block.length = 16 :=
        ⟨cipher.take 16, cipher.drop 16, (List.take_append_drop 16 cipher).symm, by
          rw [List.length_take]
          omega⟩
      rw [List.length_append, size] at whole
      rw [List.length_append, size, readBytes_append] at held
      obtain ⟨first, later⟩ := List.append_inj held (by rw [Avp.readBytes_length, size])
      obtain ⟨step, made⟩ : ∃ step : Memory, step =
          if n = 0 then decodeBytes (config.md5 ctx) n 1 15 buffer
          else decodeBytes (config.md5 ctx) n 0 16 buffer := ⟨_, rfl⟩
      obtain ⟨deciphered, kept⟩ := @decodeBlock_getElem? config buffer n block _ first step made
      have ahead : readBytes step (n + 16 + 2) rest.length = rest := by
        rw [show n + 16 + 2 = n + 2 + 16 by omega]
        refine Eq.trans (readBytes_congr fun k inside => ?_) later
        exact kept _ (.inr (by omega))
      obtain ⟨decoded, runs, plain, below⟩ := ih (n + 16) (config.radiussecret ++ block) step rest
        (by omega) (by omega) ahead
      refine ⟨decoded, ?_, ?_, ?_⟩
      · rw [decodeFrom, if_pos (by omega), if_neg (by omega), first, ← made,
          show n + 16 * (blocks + 1) = n + 16 + 16 * blocks by omega]
        exact runs
      · intro k byte found positive
        rw [Feedback.reveal_append block size] at found
        have length : ((hidingChain config).maskBlock (config.md5 ctx) block).length = 16 := by
          rw [Feedback.maskBlock_length (by omega), size]
        by_cases inside : k < 16
        · rw [List.getElem?_append_left (by omega)] at found
          rw [below _ (by omega)]
          exact deciphered k byte found positive
        · rw [List.getElem?_append_right (by omega), length] at found
          have there := plain (k - 16) byte found (by omega)
          rw [show n + 16 + (k - 16) - 1 = n + k - 1 by omega] at there
          exact there
      · intro j before
        rw [below j (by omega)]
        exact kept j (.inl before)

variable {auth salt password : List UInt8}

theorem padded_length : (padded password).length = 16 * (password.length / 16 + 1) := by
  simp only [padded, List.length_cons, List.length_append, List.length_replicate]
  omega

theorem hiddenPassword_length :
    (hiddenPassword config auth salt password).length = 16 * (password.length / 16 + 1) := by
  rw [hiddenPassword, Feedback.hide_length, padded_length]

theorem reveal_hiddenPassword :
    (hidingChain config).reveal (config.md5 (config.radiussecret ++ auth ++ salt))
      (hiddenPassword config auth salt password) = padded password :=
  Feedback.reveal_hide _ _

theorem readBytes_written (memory : Memory) (before bytes behind : List UInt8) :
    readBytes (writeBytes memory 0 (before ++ bytes ++ behind)) before.length bytes.length =
      bytes := by
  have written := Avp.readBytes_writeBytes memory 0 before bytes behind
  rwa [Nat.zero_add] at written

theorem decodedlen_eq {cipher : List UInt8} {digest : Fin 16 → UInt8} (some : 0 < cipher.length)
    (reveals : (hidingChain config).reveal digest cipher = padded password) :
    cipher[0] ^^^ digest 0 = UInt8.ofNat password.length := by
  rw [Feedback.reveal_step] at reveals
  have length : ((hidingChain config).maskBlock digest (cipher.take 16)).length =
      min 16 cipher.length := by
    rw [Feedback.maskBlock_length (List.length_take_le 16 cipher), List.length_take]
  have first := congrArg (fun bytes => bytes[0]?) reveals
  rw [List.getElem?_append_left (by omega), List.getElem?_eq_getElem (by omega),
    Feedback.maskBlock_getElem 0 _ (by rw [List.length_take]; omega) (by decide)] at first
  simpa [hidingChain, padded] using first

/-- **Tunnel-Password.** Whatever the digest is, the password that the server has hidden is
left at the start of the buffer with its terminator, its length is returned, and no access
is outside of the buffer. -/
theorem tunnelPassword_decoded (config : Config) (auth salt password : List UInt8) (tag : UInt8)
    (salted : salt.length = 2) (nonempty : 1 ≤ password.length)
    (short : password.length ≤ 239) :
    ∃ buffer, processTunnelPassword config auth (tunnelPassword config auth salt password tag) =
        some (.returned password.length buffer) ∧
      readBytes buffer 0 (password.length + 1) = password ++ [0] := by
  obtain ⟨cipher, hidden⟩ : ∃ cipher, cipher = hiddenPassword config auth salt password :=
    ⟨_, rfl⟩
  have size : cipher.length = 16 * (password.length / 16 + 1) := by
    rw [hidden, hiddenPassword_length]
  have reveals : (hidingChain config).reveal (config.md5 (config.radiussecret ++ auth ++ salt))
      cipher = padded password := by
    rw [hidden, reveal_hiddenPassword]
  obtain ⟨start, filled⟩ : ∃ start, start = writeBytes (fun _ => 0) 0 (salt ++ cipher) :=
    ⟨_, rfl⟩
  have salt_eq : readBytes start 0 2 = salt := by
    rw [filled, ← salted]
    exact readBytes_written _ [] salt cipher
  have cipher_eq : readBytes start 2 cipher.length = cipher := by
    rw [filled, ← salted]
    have written := readBytes_written (fun _ => 0) salt cipher []
    rwa [List.append_nil] at written
  have first : start 2 ^^^ config.md5 (config.radiussecret ++ auth ++ salt) 0 =
      UInt8.ofNat password.length := by
    have stored := @readBytes_getElem? start 2 cipher.length 0 cipher cipher[0] cipher_eq
      (List.getElem?_eq_getElem _)
    rw [stored, decodedlen_eq (by omega) reveals]
  have length : (UInt8.ofNat password.length).toNat = password.length := by
    rw [UInt8.toNat_ofNat']
    omega
  obtain ⟨decoded, runs, plain, -⟩ := @decodeFrom_reveal config (password.length / 16 + 1) 0
    (config.radiussecret ++ auth ++ salt) start cipher size
    (by simp only [strtempSize]; omega) cipher_eq
  rw [reveals] at plain
  rw [Nat.zero_add] at runs
  refine ⟨Function.update decoded password.length 0, ?_, ?_⟩
  · have whole : (tunnelPassword config auth salt password tag).length = 5 + cipher.length := by
      simp only [tunnelPassword, ← hidden, List.length_append, List.length_cons, List.length_nil,
        salted]
    have behind : (tunnelPassword config auth salt password tag).drop 3 = salt ++ cipher := by
      simp only [tunnelPassword, ← hidden, List.cons_append, List.nil_append, List.drop_succ_cons,
        List.drop_zero]
    rw [processTunnelPassword, whole, if_neg (by omega), behind, ← filled, radTunnelPwdecode,
      if_neg (by omega), if_neg (by omega)]
    simp only [salt_eq, first, length]
    rw [if_neg (by omega),
      show 5 + cipher.length - 3 - 2 = 16 * (password.length / 16 + 1) by omega,
      runs]
    simp only [Nat.min_eq_left short]
  · apply List.ext_getElem
    · simp [Avp.readBytes_length]
    · intro k read inside
      simp only [readBytes, List.getElem_map, List.getElem_range, Nat.zero_add]
      by_cases last : k = password.length
      · subst last
        simp
      · have before : k < password.length := by
          simp only [List.length_append, List.length_singleton] at inside
          omega
        rw [Function.update_of_ne last, List.getElem_append_left before]
        have letter : (padded password)[k + 1]? = some password[k] := by
          rw [padded, List.cons_append, List.getElem?_cons_succ, List.getElem?_append_left before,
            List.getElem?_eq_getElem before]
        have there := plain (k + 1) password[k] letter (by omega)
        rwa [Nat.zero_add, Nat.add_sub_cancel] at there

def lastByteConfig : Config where
  radiussecret := [115]
  md5 bytes _ := bytes.getLastD 0

/-- A password of two letters. -/
theorem tunnelPassword_two :
    ∃ buffer, processTunnelPassword lastByteConfig [7, 7, 7, 7]
        (tunnelPassword lastByteConfig [7, 7, 7, 7] [1, 2] [97, 98] 0) =
        some (.returned 2 buffer) ∧ readBytes buffer 0 3 = [97, 98] ++ [0] :=
  tunnelPassword_decoded lastByteConfig [7, 7, 7, 7] [1, 2] [97, 98] 0 rfl (by decide) (by decide)

end L2tpns.Radius
