import L2tpns.Foundation.CText
import L2tpns.Radius.Attributes
import L2tpns.Radius.Dae

/-! # Rates from the RADIUS servers

The plugin `autothrottle` takes the rates of a session from pairs that the servers send, and
writes them into accounting requests as such pairs. What it writes it takes back as it was. The
rate of any other pair is read as an `int` and stored in 16 bits, and it is taken as it is
exactly if it is one of 16 bits, or not taken because the `int` is negative
(`L2tpns.Radius.throttling_iff`).
-/

namespace L2tpns.Radius

open Foundation Function
open Foundation.CText (IsNumeral atoi strtolEnd)
open Avp (Memory readBytes writeBytes)
open Server (Session cString)

/-- The characters of a text. -/
def chars (bytes : List UInt8) : List Char := bytes.map fun byte => Char.ofNat byte.toNat

/-- `THROTTLE_KEY` -/
def throttleKey : List UInt8 := text "lcp:interface-config"

/-- The key starts with these bytes (`strncmp` with as many bytes). -/
def startsWith (key : Memory) (bytes : List UInt8) : Prop := readBytes key 0 bytes.length = bytes

instance (key : Memory) (bytes : List UInt8) : Decidable (startsWith key bytes) :=
  inferInstanceAs (Decidable (_ = _))

/-- The rates that a pair is about. -/
inductive Throttles where
  | input
  | output
  | both
deriving DecidableEq, Repr

/-- The type and the rate in a value such as "service-policy input 128", where the words may be
cut short: `strncmp` compares as many bytes as there are before the blank. -/
def policyRate (value : List UInt8) : Option (Throttles × List UInt8) :=
  let policy := value.takeWhile (· ≠ 32)
  let behind := value.dropWhile (· ≠ 32)
  if behind = [] ∨ policy.length < 4 ∨ ¬ policy <+: text "service-policy" then none
  else
    let value := behind.dropWhile (· = 32)
    let type := value.takeWhile (· ≠ 32)
    let behind := value.dropWhile (· ≠ 32)
    if behind = [] ∨ ¬ type <+: text "input" ∧ ¬ type <+: text "output" then none
    else
      some (if value.head? = some 105 then .input else .output, behind.dropWhile (· = 32))

/-- A session with other rates. -/
def Throttles.assign (session : Session) (rate : Nat) : Throttles → Session
  | .input => { session with throttleIn := rate }
  | .output => { session with throttleOut := rate }
  | .both => { session with throttleIn := rate, throttleOut := rate }

/-- An assignment of an `int` to `throttle_in`, `throttle_out`, or both. -/
def setThrottle (session : Session) (rates : Throttles) (rate : Int) : Session :=
  rates.assign session (rate % 2 ^ 16).toNat

/-- `plugin_radius_response`; `throttleSpeed` is the configured value, if there is one. -/
def pluginRadiusResponse (throttleSpeed : Option Nat) (key : Memory) (value : List UInt8)
    (session : Session) : Session :=
  if startsWith key throttleKey then
    match policyRate value with
    | none => session
    | some (rates, number) =>
        let rate := atoi (chars number)
        if rate < 0 ∨ strtolEnd (chars number) ≠ [] then session
        else setThrottle session rates rate
  else if startsWith key (text "throttle" ++ [0]) then
    let read := atoi (chars value)
    let rate :=
      if read < 0 ∨ strtolEnd (chars value) ≠ [] then
        if value = text "yes" then throttleSpeed.elim (-1) fun speed => (speed : Int).bmod (2 ^ 32)
        else if value = text "no" then 0
        else -1
      else read
    if rate < 0 then session else setThrottle session .both rate
  else session

/-- The vendor-specific attribute with a pair: 26, its length, vendor 9, attribute 1 and its
length. -/
def vendorAttribute (pair : List UInt8) : List UInt8 :=
  let inner := UInt8.ofNat (2 + pair.length)
  [26, inner + 6, 0, 0, 0, 9, 1, inner] ++ pair

/-- The text of the pair number `i`. -/
def policyPair (i : Nat) (type : String) (rate : Nat) : List UInt8 :=
  throttleKey ++ 35 :: decimal i ++
    61 :: (text "service-policy" ++ 32 :: (text type ++ 32 :: decimal rate))

/-- The pairs of `plugin_radius_account`. -/
def accountPairs (session : Session) : List (List UInt8) :=
  (if session.throttleIn ≠ 0 then [policyPair 1 "input" session.throttleIn] else []) ++
    if session.throttleOut ≠ 0 then
      [policyPair (if session.throttleIn ≠ 0 then 2 else 1) "output" session.throttleOut]
    else []

/-- What `plugin_radius_account` appends to the packet. -/
def pluginRadiusAccount (session : Session) : List UInt8 :=
  (accountPairs session).flatMap vendorAttribute

/-- The pair in an attribute, as `processrad` finds it. -/
def pairOf (item : Tlv) : Option (List UInt8) :=
  match item.value with
  | 0 :: 0 :: 0 :: 9 :: 1 :: inner :: content =>
      if item.type = 26 then some (content.take (inner.toNat - 2)) else none
  | _ => none

/-- The pairs in the attributes of a packet. -/
def pairsOf (bytes : List UInt8) : List (List UInt8) :=
  ((Tlv.parse bytes).getD []).filterMap pairOf

/-- `handle_avpair` for a pair at `avp`, with this plugin. -/
def receivePair (throttleSpeed : Option Nat) (memory : Memory) (avp : Nat) (session : Session)
    (pair : List UInt8) : Session :=
  (splitAvpair (writeBytes memory avp pair) avp pair.length).1.elim session fun pair =>
    pluginRadiusResponse throttleSpeed pair.1 pair.2 session

def rateOf (key : Memory) (value : List UInt8) : Option (Throttles × List UInt8) :=
  if startsWith key throttleKey then policyRate value
  else if startsWith key (text "throttle" ++ [0]) then some (.both, value)
  else none

/-- A session took a rate as it is, or it is unchanged because the rate cannot be stored. -/
def TakesRate (session : Session) (rates : Throttles) (rate : Int) (next : Session) : Prop :=
  next = if 0 ≤ rate ∧ rate < 2 ^ 16 then rates.assign session rate.toNat else session

instance (session : Session) (rates : Throttles) (rate : Int) (next : Session) :
    Decidable (TakesRate session rates rate next) :=
  inferInstanceAs (Decidable (_ = _))

/-- A number as `strtol` and an assignment to an `int` make it. -/
def toInt (rate : Int) : Int := (max (min rate (2 ^ 63 - 1)) (-2 ^ 63)).bmod (2 ^ 32)

theorem decimal_byte {n : Nat} {byte : UInt8} (mem : byte ∈ decimal n) :
    ∃ c ∈ CText.decimal n, byte = UInt8.ofNat c.toNat ∧ byte.toNat = c.toNat ∧
      48 ≤ c.toNat ∧ c.toNat ≤ 57 := by
  obtain ⟨c, member, rfl⟩ := List.mem_map.mp mem
  have digit := CText.decimal_isDigit member
  simp only [Char.isDigit, ge_iff_le, Bool.and_eq_true, decide_eq_true_eq] at digit
  have top : c.toNat ≤ 57 := digit.2
  exact ⟨c, member, rfl, UInt8.toNat_ofNat_of_lt' (by simp only [UInt8.size]; omega), digit.1, top⟩

theorem chars_decimal (n : Nat) : chars (decimal n) = CText.decimal n := by
  have digits : (CText.decimal n).map (fun c => Char.ofNat (UInt8.ofNat c.toNat).toNat) =
      (CText.decimal n).map id := by
    apply List.map_congr_left
    intro c mem
    have digit := CText.decimal_isDigit mem
    simp only [Char.isDigit, ge_iff_le, Bool.and_eq_true, decide_eq_true_eq] at digit
    have top : c.toNat ≤ 57 := digit.2
    rw [UInt8.toNat_ofNat_of_lt' (by simp only [UInt8.size]; omega)]
    exact Char.ofNat_toNat c
  rw [chars, decimal, List.map_map]
  exact digits.trans (List.map_id _)

theorem not_mem_decimal {n : Nat} {byte : UInt8} (other : byte.toNat < 48 ∨ 57 < byte.toNat) :
    byte ∉ decimal n := by
  intro mem
  obtain ⟨c, -, -, same, low, top⟩ := decimal_byte mem
  omega

variable {value number : List UInt8} {rate : Int} {rates : Throttles}

/-- **A pair is cut** at its first equals sign, where no quotes are to be stripped. -/
theorem splitAvpair_writeBytes (memory : Memory) (avp : Nat) {key : List UInt8}
    (noEquals : 61 ∉ key) (noNul : 0 ∉ value)
    (unquoted : ∀ first ∈ value.head?, first ≠ 34 ∧ first ≠ 39) (short : value.length < 2047) :
    ∃ left, (splitAvpair (writeBytes memory avp (key ++ 61 :: value)) avp
        (key ++ 61 :: value).length).1 = some (left, value) ∧
      readBytes left 0 key.length = key ∧ left key.length = 0 := by
  set written := writeBytes memory avp (key ++ 61 :: value) with made
  have all : readBytes written avp (key ++ 61 :: value).length = key ++ 61 :: value := by
    simpa using Avp.readBytes_writeBytes memory avp [] (key ++ 61 :: value) []
  have front : readBytes written avp key.length = key := by
    simpa using Avp.readBytes_writeBytes memory avp [] key (61 :: value)
  have behind : readBytes written (avp + key.length + 1) value.length = value := by
    have read := Avp.readBytes_writeBytes memory avp (key ++ [61]) value []
    rwa [List.append_nil, List.append_assoc, List.singleton_append, List.length_append,
      List.length_singleton, ← Nat.add_assoc] at read
  have place : (key ++ 61 :: value).findIdx? (· = 61) = some key.length := by
    have none : key.findIdx? (· = 61) = none := by
      rw [List.findIdx?_eq_none_iff]
      intro byte mem
      have other : byte ≠ 61 := fun same => noEquals (same ▸ mem)
      simpa using other
    simp [List.findIdx?_append, none, List.findIdx?_cons]
  have size : (key ++ 61 :: value).length - (key.length + 1) = value.length := by
    simp only [List.length_append, List.length_cons]
    omega
  have split : readBytes (update written (avp + key.length) 0) (avp + key.length + 1)
      value.length = value := by
    refine (Avp.readBytes_congr fun k _ => ?_).trans behind
    exact update_of_ne (by omega) _ _
  have plain : ¬ (2 < value.length ∧
      (update written (avp + key.length) 0 (avp + key.length + 1) = 34 ∨
        update written (avp + key.length) 0 (avp + key.length + 1) = 39) ∧
      update written (avp + key.length) 0 (avp + key.length + 1 + value.length - 1) =
        update written (avp + key.length) 0 (avp + key.length + 1)) := by
    rintro ⟨some, quote, -⟩
    obtain ⟨first, rest, rfl⟩ := List.exists_cons_of_length_pos (by omega : 0 < value.length)
    rw [List.length_cons, Avp.readBytes_cons, List.cons.injEq] at split
    rw [split.1] at quote
    have neither := unquoted first (by simp)
    exact quote.elim neither.1 neither.2
  refine ⟨fun k => update written (avp + key.length) 0 (avp + k), ?_, ?_, ?_⟩
  · rw [splitAvpair, all, place]
    simp only [size]
    rw [if_neg plain, if_pos short, split, cString, List.takeWhile_eq_self_iff.mpr]
    intro byte mem
    have other : byte ≠ 0 := fun same => noNul (same ▸ mem)
    simpa using other
  · refine Eq.trans ?_ front
    apply List.map_congr_left
    intro k inside
    rw [List.mem_range] at inside
    simp only [Nat.zero_add]
    exact update_of_ne (by omega) _ _
  · exact update_self ..

/-- A type and a rate behind the words of a policy are found. -/
theorem policyRate_words {policy type : List UInt8}
    (named : policy <+: text "service-policy") (long : 4 ≤ policy.length)
    (policyBlanks : 32 ∉ policy) (typeBlanks : 32 ∉ type) (some : type ≠ [])
    (direction : type <+: text "input" ∨ type <+: text "output")
    (starts : number.head? ≠ Option.some 32) :
    policyRate (policy ++ 32 :: (type ++ 32 :: number)) =
      Option.some (if type.head? = Option.some 105 then .input else .output, number) := by
  have take {word rest : List UInt8} (blanks : 32 ∉ word) :
      (word ++ 32 :: rest).takeWhile (· ≠ 32) = word := by
    rw [List.takeWhile_append_of_pos]
    · simp
    · intro byte mem
      have other : byte ≠ 32 := fun same => blanks (same ▸ mem)
      simpa using other
  have drop {word rest : List UInt8} (blanks : 32 ∉ word) :
      (word ++ 32 :: rest).dropWhile (· ≠ 32) = 32 :: rest := by
    rw [List.dropWhile_append_of_pos]
    · simp
    · intro byte mem
      have other : byte ≠ 32 := fun same => blanks (same ▸ mem)
      simpa using other
  have skip {rest : List UInt8} (stops : rest.head? ≠ Option.some 32) :
      (32 :: rest).dropWhile (· = 32) = rest := by
    rw [List.dropWhile_cons_of_pos (by simp)]
    cases rest with
    | nil => rfl
    | cons byte rest =>
        have other : byte ≠ 32 := by simpa using stops
        exact List.dropWhile_cons_of_neg (by simpa using other)
  obtain ⟨first, letters, rfl⟩ := List.exists_cons_of_ne_nil some
  have head : ((first :: letters) ++ 32 :: number).head? ≠ Option.some 32 := by
    rintro same
    exact typeBlanks (by simp_all)
  have known : ¬ (32 :: number = [] ∨
      ¬ (first :: letters) <+: text "input" ∧ ¬ (first :: letters) <+: text "output") := by
    rintro (none | ⟨input, output⟩)
    · exact absurd none (by simp)
    · exact direction.elim input output
  rw [policyRate, take policyBlanks, drop policyBlanks, skip head, if_neg (by simp [named, long])]
  simp only [take typeBlanks, drop typeBlanks, skip starts]
  rw [if_neg known]
  rfl

theorem policyRate_pair {type : String} (one : type = "input" ∨ type = "output") (rate : Nat) :
    policyRate (text "service-policy" ++ 32 :: (text type ++ 32 :: decimal rate)) =
      some (if type = "input" then .input else .output, decimal rate) := by
  have starts : (decimal rate).head? ≠ some 32 := by
    intro blank
    exact not_mem_decimal (.inl (by decide)) (List.mem_of_mem_head? blank)
  rcases one with rfl | rfl
  · exact policyRate_words List.prefix_rfl (by decide) (by decide) (by decide) (by decide)
      (.inl List.prefix_rfl) starts
  · exact policyRate_words List.prefix_rfl (by decide) (by decide) (by decide) (by decide)
      (.inr List.prefix_rfl) starts

theorem atoi_numeral {text : List Char} (numeral : IsNumeral text rate) :
    atoi text = toInt rate := by
  rw [atoi, numeral.read.1, toInt]

/-- The rate that a pair names is stored, unless it is negative as an `int`. -/
theorem pluginRadiusResponse_rate {key : Memory} (found : rateOf key value = some (rates, number))
    (numeral : IsNumeral (chars number) rate) (throttleSpeed : Option Nat) (session : Session) :
    pluginRadiusResponse throttleSpeed key value session =
      if toInt rate < 0 then session else setThrottle session rates (toInt rate) := by
  have ends := numeral.read.2
  rw [rateOf] at found
  rw [pluginRadiusResponse]
  split at found
  · rw [if_pos ‹_›, found]
    simp [atoi_numeral numeral, ends]
  · split at found
    · simp only [Option.some.injEq, Prod.mk.injEq] at found
      obtain ⟨rfl, rfl⟩ := found
      have noWord {word : List UInt8} (stops : strtolEnd (chars word) ≠ []) : value ≠ word := by
        rintro rfl
        exact stops ends
      have yes : value ≠ text "yes" := noWord (by decide)
      have no : value ≠ text "no" := noWord (by decide)
      rw [if_neg ‹_›, if_pos ‹_›]
      simp only [atoi_numeral numeral, ends, ne_eq, not_true_eq_false, or_false, if_neg yes,
        if_neg no]
      by_cases negative : toInt rate < 0
      · simp [negative]
      · simp [negative]
    · exact absurd found (by simp)

theorem toInt_small (low : 0 ≤ rate) (small : rate < 2 ^ 16) : toInt rate = rate := by
  rw [toInt, Int.bmod_eq_of_le] <;> omega

/-- A pair of the accounting as the plugin receives it. -/
theorem receivePair_policy (throttleSpeed : Option Nat) (memory : Memory) (avp : Nat)
    (session : Session) {i : Nat} {type : String} (one : type = "input" ∨ type = "output")
    {rate : Nat} (small : rate < 2 ^ 16) :
    receivePair throttleSpeed memory avp session (policyPair i type rate) =
      if type = "input" then { session with throttleIn := rate }
      else { session with throttleOut := rate } := by
  have noEquals : 61 ∉ throttleKey ++ 35 :: decimal i := by
    rw [List.mem_append, List.mem_cons]
    rintro (key | hash | digits)
    · exact absurd key (by decide)
    · exact absurd hash (by decide)
    · exact not_mem_decimal (.inr (by decide)) digits
  have noNul : 0 ∉ text "service-policy" ++ 32 :: (text type ++ 32 :: decimal rate) := by
    simp only [List.mem_append, List.mem_cons]
    rintro (policy | blank | direction | blank | digits)
    · exact absurd policy (by decide)
    · exact absurd blank (by decide)
    · rcases one with rfl | rfl <;> exact absurd direction (by decide)
    · exact absurd blank (by decide)
    · exact not_mem_decimal (.inl (by decide)) digits
  have digits : (decimal rate).length ≤ 5 := decimal_length (by decide) (by omega)
  have short :
      (text "service-policy" ++ 32 :: (text type ++ 32 :: decimal rate)).length < 2047 := by
    have word : (text type).length ≤ 6 := by
      rcases one with rfl | rfl <;> decide
    have policy : (text "service-policy").length = 14 := by decide
    simp only [List.length_append, List.length_cons]
    omega
  obtain ⟨left, split, front, -⟩ := splitAvpair_writeBytes memory avp noEquals noNul
    (by intro first mem; obtain rfl : first = 115 := by simpa [text] using mem.symm
        decide) short
  have named : startsWith left throttleKey := by
    rw [List.length_append, Avp.readBytes_append] at front
    exact (List.append_inj front (by rw [Avp.readBytes_length])).1
  have numeral : IsNumeral (chars (decimal rate)) rate := by
    rw [chars_decimal]
    exact CText.isNumeral_decimal rate
  have found : rateOf left (text "service-policy" ++ 32 :: (text type ++ 32 :: decimal rate)) =
      some (if type = "input" then .input else .output, decimal rate) := by
    rw [rateOf, if_pos named, policyRate_pair one]
  rw [receivePair, policyPair, split, Option.elim_some,
    pluginRadiusResponse_rate found numeral, toInt_small (by omega) (by omega), if_neg (by omega)]
  have stored : ((rate : Int) % 2 ^ 16).toNat = rate := by omega
  rcases one with rfl | rfl
  · simp only [↓reduceIte, setThrottle, stored, Throttles.assign]
  · rw [if_neg (by decide), if_neg (by decide)]
    simp only [setThrottle, stored, Throttles.assign]

theorem vendorAttribute_pair {pair : List UInt8} (short : pair.length ≤ 247) :
    ∃ item : Tlv, item.Fits ∧ vendorAttribute pair = item.encode ∧ pairOf item = some pair := by
  have inner : (UInt8.ofNat (2 + pair.length)).toNat = pair.length + 2 := by
    rw [UInt8.toNat_ofNat_of_lt' (by simp only [UInt8.size]; omega)]
    omega
  refine ⟨⟨26, [0, 0, 0, 9, 1, UInt8.ofNat (2 + pair.length)] ++ pair⟩, ?_, ?_, ?_⟩
  · simp only [Tlv.Fits, List.length_append, List.length_cons, List.length_nil]
    omega
  · have outer : UInt8.ofNat (2 + pair.length) + 6 = UInt8.ofNat (6 + pair.length + 2) := by
      apply UInt8.toNat_inj.mp
      rw [UInt8.toNat_add, inner, UInt8.toNat_ofNat_of_lt' (by simp only [UInt8.size]; omega)]
      change (pair.length + 2 + 6) % 256 = 6 + pair.length + 2
      omega
    simp only [vendorAttribute, Tlv.encode, outer, List.length_append]
    rfl
  · simp only [pairOf, List.cons_append, List.nil_append, if_true, inner, Nat.add_sub_cancel,
      List.take_length]

theorem pairsOf_vendorAttributes {pairs : List (List UInt8)}
    (short : ∀ pair ∈ pairs, pair.length ≤ 247) :
    pairsOf (pairs.flatMap vendorAttribute) = pairs := by
  have items : ∃ items : List Tlv, (∀ item ∈ items, item.Fits) ∧
      pairs.flatMap vendorAttribute = Tlv.encodeAll items ∧ items.filterMap pairOf = pairs := by
    induction pairs with
    | nil => exact ⟨[], nofun, rfl, rfl⟩
    | cons pair pairs ih =>
        obtain ⟨item, one, written, found⟩ := vendorAttribute_pair (short pair (by simp))
        obtain ⟨items, all, others, rest⟩ := ih fun other mem => short other (by simp [mem])
        refine ⟨item :: items, ?_, ?_, ?_⟩
        · intro other mem
          rcases List.mem_cons.mp mem with rfl | behind
          · exact one
          · exact all other behind
        · rw [List.flatMap_cons, written, others, Tlv.encodeAll_cons]
        · rw [List.filterMap_cons_some found, rest]
  obtain ⟨items, fits, written, found⟩ := items
  rw [pairsOf, written, Tlv.parse_encodeAll fits, Option.getD_some, found]

theorem accountPairs_length {session : Session} (smallIn : session.throttleIn < 2 ^ 16)
    (smallOut : session.throttleOut < 2 ^ 16) :
    ∀ pair ∈ accountPairs session, pair.length ≤ 247 := by
  have length {i : Nat} {type : String} {rate : Nat} (few : i < 10) (word : type.length ≤ 6)
      (small : rate < 2 ^ 16) : (policyPair i type rate).length ≤ 247 := by
    have number : (decimal i).length ≤ 1 := decimal_length (by decide) (by omega)
    have digits : (decimal rate).length ≤ 5 := decimal_length (by decide) (by omega)
    have key : throttleKey.length = 20 := by decide
    have policy : (text "service-policy").length = 14 := by decide
    simp only [policyPair, List.length_append, List.length_cons, text_length] at policy ⊢
    omega
  intro pair mem
  simp only [accountPairs, List.mem_append] at mem
  rcases mem with first | second
  · split at first
    · rw [List.mem_singleton.mp first]
      exact length (by decide) (by decide) smallIn
    · exact absurd first (by simp)
  · split at second
    · rw [List.mem_singleton.mp second]
      exact length (by split <;> decide) (by decide) smallOut
    · exact absurd second (by simp)

/-- **The pairs of the accounting** restore the rates. -/
theorem receivePairs_account {sender receiver : Session} (smallIn : sender.throttleIn < 2 ^ 16)
    (smallOut : sender.throttleOut < 2 ^ 16)
    (bareIn : sender.throttleIn = 0 → receiver.throttleIn = 0)
    (bareOut : sender.throttleOut = 0 → receiver.throttleOut = 0) (throttleSpeed : Option Nat)
    (memory : Memory) (avp : Nat) :
    (pairsOf (pluginRadiusAccount sender)).foldl (receivePair throttleSpeed memory avp) receiver =
      { receiver with throttleIn := sender.throttleIn, throttleOut := sender.throttleOut } := by
  rw [pluginRadiusAccount, pairsOf_vendorAttributes (accountPairs_length smallIn smallOut),
    accountPairs, List.foldl_append]
  have input : (if sender.throttleIn ≠ 0 then [policyPair 1 "input" sender.throttleIn]
      else []).foldl (receivePair throttleSpeed memory avp) receiver =
        { receiver with throttleIn := sender.throttleIn } := by
    split
    · rw [List.foldl_cons, List.foldl_nil, receivePair_policy _ _ _ _ (.inl rfl) smallIn,
        if_pos rfl]
    · have zero : sender.throttleIn = 0 := by omega
      rw [List.foldl_nil, zero, ← bareIn zero]
  rw [input]
  split
  · rw [List.foldl_cons, List.foldl_nil, receivePair_policy _ _ _ _ (.inr rfl) smallOut,
      if_neg (by decide)]
  · have zero : sender.throttleOut = 0 := by omega
    rw [List.foldl_nil, zero, ← bareOut zero]

theorem setThrottle_small (low : 0 ≤ rate) (small : rate < 2 ^ 16)
    (session : Session) (rates : Throttles) :
    TakesRate session rates rate (setThrottle session rates rate) := by
  rw [TakesRate, if_pos ⟨low, small⟩, setThrottle, Int.emod_eq_of_lt low small]

/-- A session whose rates are one value. -/
def evenSession (rate : Nat) : Session :=
  { Session.zero with throttleIn := rate, throttleOut := rate }

theorem setThrottle_ne {session : Session} (same : setThrottle session rates rate = session) :
    (rate % 2 ^ 16).toNat = session.throttleIn ∨ (rate % 2 ^ 16).toNat = session.throttleOut := by
  cases rates with
  | input | both => exact .inl (congrArg Session.throttleIn same)
  | output => exact .inr (congrArg Session.throttleOut same)

/-- A pair that names a number is taken as it is by every session exactly if the number has 16
bits, or is left because it is negative as an `int`. -/
theorem takes_iff {key : Memory} (found : rateOf key value = some (rates, number))
    (numeral : IsNumeral (chars number) rate) (throttleSpeed : Option Nat) :
    (∀ session, TakesRate session rates rate
        (pluginRadiusResponse throttleSpeed key value session)) ↔
      0 ≤ rate ∧ rate < 2 ^ 16 ∨ toInt rate < 0 := by
  simp only [pluginRadiusResponse_rate found numeral]
  by_cases fits : 0 ≤ rate ∧ rate < 2 ^ 16
  · have read := toInt_small fits.1 fits.2
    have positive : ¬ rate < 0 := by omega
    simp only [read, if_neg positive, fits, and_self, true_or, iff_true]
    exact fun session => setThrottle_small fits.1 fits.2 session rates
  · simp only [TakesRate, fits, false_or]
    by_cases negative : toInt rate < 0
    · simp [negative]
    · simp only [negative, if_false, iff_false, not_forall]
      refine ⟨evenSession ((toInt rate % 2 ^ 16).toNat + 1), fun same => ?_⟩
      have stored := setThrottle_ne same
      simp only [evenSession] at stored
      omega

/-- **Rates from the RADIUS servers.** The pairs of the accounting restore the rates of a
session, and a pair that names a number is taken as it is exactly if the number has 16 bits, or
is left because it is negative as an `int`. -/
theorem throttling_iff (throttleSpeed : Option Nat) :
    (∀ (memory : Memory) (avp : Nat) (sender receiver : Session),
      sender.throttleIn < 2 ^ 16 → sender.throttleOut < 2 ^ 16 →
      (sender.throttleIn = 0 → receiver.throttleIn = 0) →
      (sender.throttleOut = 0 → receiver.throttleOut = 0) →
      (pairsOf (pluginRadiusAccount sender)).foldl (receivePair throttleSpeed memory avp) receiver =
        { receiver with throttleIn := sender.throttleIn, throttleOut := sender.throttleOut }) ∧
    ∀ (key : Memory) (value : List UInt8) (rates : Throttles) (number : List UInt8) (rate : Int),
      rateOf key value = some (rates, number) → IsNumeral (chars number) rate →
      ((∀ session,
          TakesRate session rates rate (pluginRadiusResponse throttleSpeed key value session)) ↔
        0 ≤ rate ∧ rate < 2 ^ 16 ∨ toInt rate < 0) :=
  ⟨fun memory avp _ _ smallIn smallOut bareIn bareOut =>
      receivePairs_account smallIn smallOut bareIn bareOut throttleSpeed memory avp,
    fun _ _ _ _ _ found numeral => takes_iff found numeral throttleSpeed⟩

/-- The key `throttle`. -/
def throttleName : Memory := fun k => ((text "throttle")[k]?).getD 0

/-- Rates of 128 and 70 restore a session, and 128 is taken as it is. -/
theorem rates_taken :
    (pairsOf (pluginRadiusAccount { Session.zero with throttleIn := 128, throttleOut := 70 })).foldl
        (receivePair none (fun _ => 0) 0) Session.zero =
      { Session.zero with throttleIn := 128, throttleOut := 70 } ∧
    ∀ session, TakesRate session .both 128
      (pluginRadiusResponse none throttleName (decimal 128) session) :=
  ⟨(throttling_iff none).1 (fun _ => 0) 0 { Session.zero with throttleIn := 128, throttleOut := 70 }
      Session.zero (by decide) (by decide) (fun _ => rfl) (fun _ => rfl),
    ((throttling_iff none).2 throttleName (decimal 128) .both (decimal 128) 128 (by decide)
      (by rw [chars_decimal]; exact CText.isNumeral_decimal 128)).mpr (.inl (by decide))⟩

/-- A rate of 70000 is stored as 4464. -/
theorem rate_cut :
    IsNumeral (chars (decimal 70000)) 70000 ∧
    rateOf throttleName (decimal 70000) = some (.both, decimal 70000) ∧
    pluginRadiusResponse none throttleName (decimal 70000) Session.zero =
      { Session.zero with throttleIn := 4464, throttleOut := 4464 } ∧
    ¬ TakesRate Session.zero .both 70000
      (pluginRadiusResponse none throttleName (decimal 70000) Session.zero) := by
  refine ⟨?_, by decide, by decide, by decide⟩
  rw [chars_decimal]
  exact CText.isNumeral_decimal 70000

end L2tpns.Radius
