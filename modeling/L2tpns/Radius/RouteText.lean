import L2tpns.Radius.Bounds

/-! # Routes as text

A route is a dotted quad, and the length of its prefix behind a slash or, without one, the
length of its class. What `processrad` makes of a text that is one is the route that the text
denotes (`L2tpns.Radius.framedRoute_denoted`), unless a slash follows behind the text.
-/

namespace L2tpns.Radius

open Server (InAddr)

/-- The number that digits spell. -/
def decimalValue (digits : List UInt8) : Nat :=
  digits.foldl (fun value c => value * 10 + (c.toNat - 48)) 0

/-- One digit or more. -/
def IsNumber (digits : List UInt8) : Prop := digits ≠ [] ∧ ∀ c ∈ digits, isDigit c

/-- A number that is the value of a byte. -/
def IsOctet (digits : List UInt8) : Prop := IsNumber digits ∧ decimalValue digits ≤ 255

/-- A text that goes on with none of these bytes. -/
def GoesOnWithout (text : List UInt8) (stops : UInt8 → Prop) : Prop :=
  ∀ c ∈ text.head?, ¬ stops c

/-- The text denotes a route: a dotted quad and the length of the prefix, or that of its class
if there is no slash. -/
def DenotesRoute (text : List UInt8) (route : Server.Route) : Prop :=
  ∃ a b c d rest, IsOctet a ∧ IsOctet b ∧ IsOctet c ∧ IsOctet d ∧
    text = a ++ 46 :: (b ++ 46 :: (c ++ 46 :: (d ++ rest))) ∧
    GoesOnWithout rest (fun c => isDigit c ∨ c = 46) ∧
    route.ip = UInt32.ofNat (((decimalValue a * 2 ^ 8 + decimalValue b) * 2 ^ 8 +
      decimalValue c) * 2 ^ 8 + decimalValue d) ∧
    ((∃ bits more, rest = 47 :: (bits ++ more) ∧ IsNumber bits ∧
        GoesOnWithout more (fun c => isDigit c) ∧ route.prefixlen = decimalValue bits ∧
        1 ≤ decimalValue bits ∧ decimalValue bits ≤ 32) ∨
      (GoesOnWithout rest (fun c => c = 47) ∧ route.prefixlen = classBits route.ip))

/-- The text denotes an IPv6 route: an address, a slash and the length of the prefix. -/
def DenotesRoute6 (inetPton : List UInt8 → Option (List UInt8)) (text : List UInt8)
    (route : Prefix6) : Prop :=
  ∃ address bits more, text = address ++ 47 :: (bits ++ more) ∧ 47 ∉ address ∧
    inetPton (Server.cString address) = some route.ipv6route ∧ IsNumber bits ∧
    GoesOnWithout more (fun c => isDigit c) ∧ route.ipv6prefixlen = decimalValue bits ∧
    1 ≤ decimalValue bits ∧ decimalValue bits ≤ 128

variable {c : UInt8} {digits text : List UInt8}

theorem isDigit_iff : isDigit c ↔ 48 ≤ c.toNat ∧ c.toNat ≤ 57 := by
  simp only [isDigit, Bool.and_eq_true, decide_eq_true_eq, UInt8.le_iff_toNat_le]
  rfl

theorem isDigit_ne_dot (digit : isDigit c) : c ≠ 46 := by
  rintro rfl
  exact absurd digit (by decide)

theorem byte_digit (digit : isDigit c) (value : Nat) :
    UInt8.ofNat value * 10 + c - 48 = UInt8.ofNat (value * 10 + (c.toNat - 48)) := by
  obtain ⟨from48, to57⟩ := isDigit_iff.mp digit
  apply UInt8.toNat_inj.mp
  rw [UInt8.toNat_sub, UInt8.toNat_add, UInt8.toNat_mul, UInt8.toNat_ofNat', UInt8.toNat_ofNat']
  change (2 ^ 8 - 48 + (value % 2 ^ 8 * 10 % 2 ^ 8 + c.toNat) % 2 ^ 8) % 2 ^ 8 = _
  omega

theorem scanQuad_digits (all : ∀ c ∈ digits, isDigit c)
    (rest : List UInt8) (ip : InAddr) (value : Nat) :
    scanQuad (digits ++ rest) ip (UInt8.ofNat value) =
      scanQuad rest ip (UInt8.ofNat
        (digits.foldl (fun value c => value * 10 + (c.toNat - 48)) value)) := by
  induction digits generalizing value with
  | nil => rfl
  | cons c digits ih =>
      obtain ⟨first, others⟩ := List.forall_mem_cons.mp all
      rw [List.cons_append, scanQuad, if_neg (isDigit_ne_dot first), if_pos first,
        byte_digit first, ih others, List.foldl_cons]

theorem address_octet (value : Nat) {octet : Nat} (small : octet ≤ 255) :
    (UInt32.ofNat value <<< 8) + (UInt8.ofNat octet).toUInt32 =
      UInt32.ofNat (value * 2 ^ 8 + octet) := by
  apply UInt32.toNat_inj.mp
  rw [UInt32.toNat_add, UInt32.toNat_shiftLeft, UInt8.toNat_toUInt32, UInt32.toNat_ofNat',
    UInt32.toNat_ofNat', UInt8.toNat_ofNat', Nat.shiftLeft_eq]
  change (value % 2 ^ 32 * 2 ^ 8 % 2 ^ 32 + octet % 2 ^ 8) % 2 ^ 32 = _
  omega

theorem scanQuad_octet (octet : IsOctet digits) (rest : List UInt8) (value : Nat) :
    scanQuad (digits ++ 46 :: rest) (UInt32.ofNat value) 0 =
      scanQuad rest (UInt32.ofNat (value * 2 ^ 8 + decimalValue digits)) 0 := by
  have digits := scanQuad_digits octet.1.2 (46 :: rest) (UInt32.ofNat value) 0
  rw [show UInt8.ofNat 0 = 0 from rfl] at digits
  rw [digits, scanQuad, if_pos rfl]
  exact congrArg (scanQuad rest · 0) (address_octet value octet.2)

theorem scanQuad_stop {rest : List UInt8} (stops : GoesOnWithout rest fun c => isDigit c ∨ c = 46)
    (ip : InAddr) (u : UInt8) : scanQuad rest ip u = (ip, u, rest) := by
  cases rest with
  | nil => rfl
  | cons c rest =>
      have other := stops c (by simp)
      rw [not_or] at other
      rw [scanQuad, if_neg other.2, if_neg other.1]

theorem scanBits_number (all : ∀ c ∈ digits, isDigit c)
    {more : List UInt8} (stops : GoesOnWithout more fun c => isDigit c) (value : Nat) :
    scanBits (digits ++ more) (UInt8.ofNat value) =
      UInt8.ofNat (digits.foldl (fun value c => value * 10 + (c.toNat - 48)) value) := by
  induction digits generalizing value with
  | nil =>
      cases more with
      | nil => rfl
      | cons c more => rw [List.nil_append, scanBits, if_neg (stops c (by simp)), List.foldl_nil]
  | cons c digits ih =>
      obtain ⟨first, others⟩ := List.forall_mem_cons.mp all
      rw [List.cons_append, scanBits, if_pos first, byte_digit first, ih others, List.foldl_cons]

theorem scanPrefixlen_number (all : ∀ c ∈ digits, isDigit c)
    {more : List UInt8} (stops : GoesOnWithout more fun c => isDigit c) (value : Nat) :
    scanPrefixlen (digits ++ more) (value % 2 ^ 32) =
      digits.foldl (fun value c => value * 10 + (c.toNat - 48)) value % 2 ^ 32 := by
  induction digits generalizing value with
  | nil =>
      cases more with
      | nil => rfl
      | cons c more =>
          rw [List.nil_append, scanPrefixlen, if_neg (stops c (by simp)), List.foldl_nil]
  | cons c digits ih =>
      obtain ⟨first, others⟩ := List.forall_mem_cons.mp all
      have digit : (c - 48).toNat = c.toNat - 48 := by
        obtain ⟨from48, -⟩ := isDigit_iff.mp first
        have above : (48 : UInt8) ≤ c := UInt8.le_iff_toNat_le.mpr from48
        exact UInt8.toNat_sub_of_le _ _ above
      have step : (value % 2 ^ 32 * 10 + (c.toNat - 48)) % 2 ^ 32 =
          (value * 10 + (c.toNat - 48)) % 2 ^ 32 := by omega
      rw [List.cons_append, scanPrefixlen, if_pos first, digit, step, ih others, List.foldl_cons]

/-- The bytes behind the quad are those behind the text if there is nothing else in it. -/
def RunsOn (text : List UInt8) (behind : UInt8) : Prop :=
  (∀ c ∈ text, isDigit c ∨ c = 46) ∧ behind = 47

theorem scanQuad_quad {a b c d rest : List UInt8} (octetA : IsOctet a) (octetB : IsOctet b)
    (octetC : IsOctet c) (octetD : IsOctet d)
    (stops : GoesOnWithout rest fun c => isDigit c ∨ c = 46) :
    scanQuad (a ++ 46 :: (b ++ 46 :: (c ++ 46 :: (d ++ rest)))) 0 0 =
      (UInt32.ofNat ((decimalValue a * 2 ^ 8 + decimalValue b) * 2 ^ 8 + decimalValue c),
        UInt8.ofNat (decimalValue d), rest) := by
  have first := scanQuad_octet octetA (b ++ 46 :: (c ++ 46 :: (d ++ rest))) 0
  rw [show UInt32.ofNat 0 = 0 from rfl, Nat.zero_mul, Nat.zero_add] at first
  rw [first, scanQuad_octet octetB, scanQuad_octet octetC]
  refine (scanQuad_digits octetD.1.2 rest _ 0).trans ?_
  exact scanQuad_stop stops _ _

theorem framedRoute_denoted {behind : UInt8} {route : Server.Route}
    (denotes : DenotesRoute text route) (ends : ¬ RunsOn text behind) :
    framedRoute text behind = route := by
  obtain ⟨a, b, c, d, rest, octetA, octetB, octetC, octetD, rfl, stops, ip, tail⟩ := denotes
  rw [framedRoute, scanQuad_quad octetA octetB octetC octetD stops]
  simp only
  rw [address_octet _ octetD.2, ← ip]
  obtain ⟨address, length⟩ := route
  rcases tail with ⟨bits, more, rfl, number, stops', prefixlen, -, most⟩ | ⟨slash, prefixlen⟩
  · have scanned := scanBits_number number.2 stops' 0
    rw [List.head?_cons, Option.getD_some, if_pos rfl, List.drop_one, List.tail_cons,
      show (0 : UInt8) = UInt8.ofNat 0 from rfl, scanned, UInt8.toNat_ofNat']
    simp only at prefixlen
    rw [prefixlen]
    exact congrArg (Server.Route.mk address) (Nat.mod_eq_of_lt (by
      rw [← decimalValue]
      omega))
  · have other : rest.head?.getD behind ≠ 47 := by
      cases rest with
      | nil =>
          refine fun slash => ends ⟨fun byte member => ?_, slash⟩
          simp only [List.mem_append, List.mem_cons, List.append_nil] at member
          rcases member with inA | rfl | inB | rfl | inC | rfl | inD
          · exact .inl (octetA.1.2 _ inA)
          · exact .inr rfl
          · exact .inl (octetB.1.2 _ inB)
          · exact .inr rfl
          · exact .inl (octetC.1.2 _ inC)
          · exact .inr rfl
          · exact .inl (octetD.1.2 _ inD)
      | cons first rest => exact slash first (by simp)
    rw [if_neg other]
    exact congrArg (Server.Route.mk address) prefixlen.symm

theorem framedRoute_runsOn {behind : UInt8} (runs : RunsOn text behind) :
    (framedRoute text behind).prefixlen = 0 := by
  have rest : (scanQuad text 0 0).2.2 = [] := by
    by_contra some
    obtain ⟨c, member, noDot, noDigit⟩ := (scanQuad_rest text 0 0).mp some
    exact (runs.1 c member).elim noDigit noDot
  rw [framedRoute]
  simp only [rest, List.head?_nil, Option.getD_none, runs.2, ↓reduceIte, List.drop_nil]
  rfl

theorem DenotesRoute.prefixlen {route : Server.Route}
    (denotes : DenotesRoute text route) : 1 ≤ route.prefixlen ∧ route.prefixlen ≤ 32 := by
  obtain ⟨a, b, c, d, rest, -, -, -, -, -, -, -, tail⟩ := denotes
  rcases tail with ⟨bits, more, -, -, -, prefixlen, least, most⟩ | ⟨-, prefixlen⟩
  · exact prefixlen ▸ ⟨least, most⟩
  · rw [prefixlen, classBits]
    split_ifs <;> omega

theorem scan_denoted6 {inetPton : List UInt8 → Option (List UInt8)}
    {route : Prefix6} (denotes : DenotesRoute6 inetPton text route) :
    ∃ slash, text.findIdx? (· = 47) = some slash ∧
      inetPton (Server.cString (text.take slash)) = some route.ipv6route ∧
      scanPrefixlen (text.drop (slash + 1)) 0 = route.ipv6prefixlen := by
  obtain ⟨address, bits, more, rfl, free, read, number, stops, prefixlen, least, most⟩ := denotes
  refine ⟨address.length, ?_, ?_, ?_⟩
  · rw [List.findIdx?_append, List.findIdx?_eq_none_iff.mpr]
    · simp [List.findIdx?_cons]
    · intro c member
      simp only [decide_eq_false_iff_not]
      exact fun slash => free (slash ▸ member)
  · rwa [List.take_left' rfl]
  · have scanned := scanPrefixlen_number number.2 stops 0
    rw [← decimalValue] at scanned
    rw [List.drop_append, List.drop_eq_nil_of_le (Nat.le_succ _), Nat.add_sub_cancel_left,
      List.nil_append, List.drop_one, List.tail_cons]
    rw [show 0 = 0 % 2 ^ 32 from rfl, scanned, prefixlen]
    exact Nat.mod_eq_of_lt (by omega)

end L2tpns.Radius
