import L2tpns.AccessList.Filter

/-! # Printing access lists

The text that `show_access_list_rule` prints for a rule. A rule that a parser accepted is
printed in words that the same parser reads as that rule
(`L2tpns.AccessList.accepts_shown`).
-/

namespace L2tpns.AccessList

open Foundation.CText Cli

/-- `show_ip_wild` -/
def showIpWild (ip wild : UInt32) : List Char :=
  if ip = inaddrAny ∧ wild = inaddrBroadcast then " any".toList
  else if wild = inaddrAny then " host ".toList ++ inetNtoa ip
  else " ".toList ++ inetNtoa ip ++ " ".toList ++ inetNtoa wild

/-- `show_ports` -/
def showPorts (ports : Ports) : List Char :=
  match ports.op with
  | .eq => " eq ".toList ++ decimal ports.port.toNat
  | .neq => " neq ".toList ++ decimal ports.port.toNat
  | .gt => " gt ".toList ++ decimal ports.port.toNat
  | .lt => " lt ".toList ++ decimal ports.port.toNat
  | .range => " range ".toList ++ decimal ports.port.toNat ++ " ".toList ++
      decimal ports.port2.toNat
  | .none => []

/-- The name that flags are printed with. -/
def TcpFlag.name : TcpFlag → String
  | .fin => "fin"
  | .syn => "syn"
  | .rst => "rst"
  | .psh => "psh"
  | .ack => "ack"
  | .urg => "urg"

/-- The two lines of the printer about one flag. -/
def showFlag (tcp : Flags) (flag : TcpFlag) : List Char :=
  (if Has tcp.sflags flag then " +".toList ++ flag.name.toList else []) ++
    (if Has tcp.cflags flag then " -".toList ++ flag.name.toList else [])

/-- The flag condition as the printer shows it. -/
def showFlags (tcp : Flags) : List Char :=
  match tcp.op with
  | .none => []
  | .est => " established".toList
  | op =>
      " match-".toList ++ (if op = .all then "all".toList else "any".toList) ++
        showFlag tcp .fin ++ showFlag tcp .syn ++ showFlag tcp .rst ++ showFlag tcp .psh ++
        showFlag tcp .ack ++ showFlag tcp .urg

/-- `show_access_list_rule` -/
def showAccessListRule (getprotobynumber : UInt8 → Option Word) (extended : Bool) (rule : Rule) :
    List Char :=
  let action := " ".toList ++ (if rule.action = .permit then "permit" else "deny").toList
  if extended then
    action ++ " ".toList ++ (getprotobynumber rule.proto).getD "ERR".toList ++
      showIpWild rule.src.ip rule.src.wild ++
      (if hasPorts rule.proto then showPorts rule.src.ports else []) ++
      showIpWild rule.dst.ip rule.dst.wild ++
      (if hasPorts rule.proto then showPorts rule.dst.ports else []) ++
      (if rule.proto = ipprotoTcp then showFlags rule.tcp else []) ++
      (if rule.frag then " fragments".toList else [])
  else action ++ showIpWild rule.src.ip rule.src.wild

def addressWords (ip wild : UInt32) : List Word :=
  if ip = inaddrAny ∧ wild = inaddrBroadcast then ["any".toList]
  else if wild = inaddrAny then ["host".toList, inetNtoa ip]
  else [inetNtoa ip, inetNtoa wild]

def portWords (ports : Ports) : List Word :=
  match ports.op with
  | .eq => ["eq".toList, decimal ports.port.toNat]
  | .neq => ["neq".toList, decimal ports.port.toNat]
  | .gt => ["gt".toList, decimal ports.port.toNat]
  | .lt => ["lt".toList, decimal ports.port.toNat]
  | .range => ["range".toList, decimal ports.port.toNat, decimal ports.port2.toNat]
  | .none => []

def signedWords (tcp : Flags) (flag : TcpFlag) : List Word :=
  (if Has tcp.sflags flag then ['+' :: flag.name.toList] else []) ++
    (if Has tcp.cflags flag then ['-' :: flag.name.toList] else [])

def flagWords (tcp : Flags) : List Word :=
  match tcp.op with
  | .none => []
  | .est => ["established".toList]
  | .all => "match-all".toList :: TcpFlag.all.flatMap (signedWords tcp)
  | .any => "match-any".toList :: TcpFlag.all.flatMap (signedWords tcp)

def protoWord (proto : UInt8) : Word :=
  if proto = ipprotoTcp then "tcp".toList
  else if proto = ipprotoUdp then "udp".toList
  else "ip".toList

def actionWord (rule : Rule) : Word :=
  (if rule.action = .permit then "permit" else "deny").toList

def ruleWords (extended : Bool) (rule : Rule) : List Word :=
  if extended then
    protoWord rule.proto :: (addressWords rule.src.ip rule.src.wild ++ portWords rule.src.ports ++
      addressWords rule.dst.ip rule.dst.wild ++ portWords rule.dst.ports ++ flagWords rule.tcp ++
      if rule.frag then ["fragments".toList] else [])
  else addressWords rule.src.ip rule.src.wild

/-- `getprotobynumber` knows the three protocols by these names. -/
structure KnowsProtocols (getprotobynumber : UInt8 → Option Word) : Prop where
  ip : getprotobynumber ipprotoIp = some "ip".toList
  tcp : getprotobynumber ipprotoTcp = some "tcp".toList
  udp : getprotobynumber ipprotoUdp = some "udp".toList

variable {ports : Ports} {getprotobynumber : UInt8 → Option Word} {rule : Rule}
  {word command : Word} {extended : Bool} {helpRequested : List Word → Bool} (ip wild : UInt32)
  (tcp : Flags) (flag : TcpFlag) (rest : List Word)

theorem showIpWild_words : showIpWild ip wild = spaced (addressWords ip wild) := by
  unfold showIpWild addressWords
  split_ifs <;> simp

theorem showPorts_words (ports : Ports) : showPorts ports = spaced (portWords ports) := by
  unfold showPorts portWords
  cases ports.op <;> simp

theorem showFlag_words : showFlag tcp flag = spaced (signedWords tcp flag) := by
  unfold showFlag signedWords
  split_ifs <;> simp

theorem showFlags_words : showFlags tcp = spaced (flagWords tcp) := by
  unfold showFlags flagWords
  cases tcp.op <;> simp [TcpFlag.all, showFlag_words]

theorem proto_word (knows : KnowsProtocols getprotobynumber) (formed : rule.Formed) :
    (getprotobynumber rule.proto).getD "ERR".toList = protoWord rule.proto := by
  rcases formed.proto with eq | eq | eq <;> rw [eq]
  · rw [knows.ip]; rfl
  · rw [knows.tcp]; rfl
  · rw [knows.udp]; rfl

theorem hasPorts_iff (formed : rule.Formed) :
    hasPorts rule.proto = true ↔ rule.proto ≠ ipprotoIp := by
  rcases formed.proto with eq | eq | eq <;> rw [eq] <;> decide

theorem ports_shown (formed : rule.Formed) (plain : rule.proto = ipprotoIp → ports = {}) :
    (if hasPorts rule.proto then showPorts ports else []) = spaced (portWords ports) := by
  split_ifs with has
  · exact showPorts_words ports
  · rw [plain (not_not.mp (mt (hasPorts_iff formed).mpr has))]
    rfl

theorem flags_shown (formed : rule.Formed) :
    (if rule.proto = ipprotoTcp then showFlags rule.tcp else []) =
      spaced (flagWords rule.tcp) := by
  split_ifs with tcp
  · exact showFlags_words rule.tcp
  · have none : rule.tcp.op = .none := by
      by_contra asks
      exact tcp (formed.flags asks)
    simp [flagWords, none]

/-- **The text is the words, each behind a blank.** -/
theorem showAccessListRule_words (knows : KnowsProtocols getprotobynumber) (extended : Bool)
    (formed : rule.Formed) :
    showAccessListRule getprotobynumber extended rule =
      spaced (actionWord rule :: ruleWords extended rule) := by
  cases extended with
  | false => simp [showAccessListRule, ruleWords, actionWord, showIpWild_words]
  | true =>
      have src := ports_shown formed fun ip => (formed.ip ip).1
      have dst := ports_shown formed fun ip => (formed.ip ip).2
      have frag : (if rule.frag then " fragments".toList else []) =
          spaced (if rule.frag then ["fragments".toList] else []) := by
        split_ifs <;> rfl
      unfold showAccessListRule ruleWords
      rw [if_pos rfl, if_pos rfl, proto_word knows formed, src, dst, flags_shown formed, frag,
        showIpWild_words, showIpWild_words]
      have blank : " ".toList = [' '] := rfl
      simp only [spaced_cons, spaced_append, blank, actionWord, List.append_assoc,
        List.cons_append, List.nil_append]

theorem parseIp_inetNtoa (addr : UInt32) : parseIp (inetNtoa addr) = .ok addr := by
  rw [parseIp, inetAton_inetNtoa]

theorem parseAddress_words (missing : String) (ip wild : UInt32) (rest : List Word) :
    parseAddress missing (addressWords ip wild ++ rest) = .ok (ip, wild, rest) := by
  have notAny := @isMatch_digit "any" _ (inetNtoa_digit ip) (by decide)
  have notHost := @isMatch_digit "host" _ (inetNtoa_digit ip) (by decide)
  have any : isMatch "any" "any".toList = true := by decide
  have host : isMatch "any" "host".toList = false ∧ isMatch "host" "host".toList = true := by
    decide
  unfold addressWords
  split_ifs with all one
  · simp only [List.cons_append, parseAddress.eq_def, any, List.nil_append, if_true, all]
  · simp only [List.cons_append, parseAddress.eq_def, host.1, host.2, List.nil_append,
      parseIp_inetNtoa, one]
    rfl
  · simp only [List.cons_append, parseAddress.eq_def, notAny, notHost, List.nil_append,
      parseIp_inetNtoa]
    rfl

theorem parsePort_decimal {port : UInt16} (nonzero : port ≠ 0) :
    parsePort (decimal port.toNat) = .ok port := by
  have small := port.toNat_lt
  have number : (atoi (decimal port.toNat)).emod (2 ^ 16) = port.toNat := by
    rw [atoi_decimal (by omega)]
    exact Int.emod_eq_of_lt (by omega) (by omega)
  unfold parsePort
  rw [number, Int.toNat_natCast, UInt16.ofNat_toNat]
  exact if_neg nonzero

/-- Words that start with no port operator. -/
def NoOperator (words : List Word) : Prop := ∀ word ∈ words.head?, portOp word = .none

theorem parsePorts_none {words : List Word} (plain : NoOperator words) :
    parsePorts words = .ok ({}, words) := by
  cases words with
  | nil => rfl
  | cons word words =>
      simp only [parsePorts.eq_def]
      rw [if_pos (plain word (by simp))]

theorem parsePorts_one {op : PortOp} (operator : portOp word = op)
    (one : op ≠ .none ∧ op ≠ .range) {port : UInt16} (nonzero : port ≠ 0) (rest : List Word) :
    parsePorts (word :: decimal port.toNat :: rest) = .ok ({ op := op, port := port }, rest) := by
  simp only [parsePorts.eq_def, operator]
  rw [if_neg one.1, parsePort_decimal nonzero]
  exact if_pos one.2

theorem parsePorts_words (formed : ports.Formed) {rest : List Word}
    (plain : NoOperator rest) : parsePorts (portWords ports ++ rest) = .ok (ports, rest) := by
  obtain ⟨op, port, port2⟩ := ports
  cases op with
  | none =>
      obtain ⟨rfl, rfl⟩ : port = 0 ∧ port2 = 0 := formed
      exact parsePorts_none plain
  | range =>
      obtain ⟨nonzero, above⟩ : port ≠ 0 ∧ port ≤ port2 := formed
      have operator : portOp "range".toList = .range := by decide
      have nonzero2 : port2 ≠ 0 := by
        rintro rfl
        exact nonzero (UInt16.le_zero_iff.mp above)
      simp only [portWords, List.cons_append, List.nil_append, parsePorts.eq_def, operator]
      rw [if_neg (by simp), parsePort_decimal nonzero, parsePort_decimal nonzero2]
      exact if_neg (UInt16.not_lt.mpr above)
  | _ =>
      obtain ⟨nonzero, rfl⟩ : port ≠ 0 ∧ port2 = 0 := formed
      exact parsePorts_one (by decide) (by decide) nonzero rest

theorem parseSide_words {proto : UInt8} (missing : String) {side : Side}
    (formed : side.ports.Formed) (ip : proto = ipprotoIp → side.ports = {}) {rest : List Word}
    (plain : NoOperator rest) :
    parseSide proto missing (addressWords side.ip side.wild ++ (portWords side.ports ++ rest)) =
      .ok (side, rest) := by
  obtain ⟨addr, wild, ports⟩ := side
  rw [parseSide, parseAddress_words]
  by_cases ipOnly : proto = ipprotoIp
  · obtain rfl : ports = {} := ip ipOnly
    exact if_pos ipOnly
  · change (if proto = ipprotoIp then _ else _) = _
    rw [if_neg ipOnly, parsePorts_words formed plain]
    rfl

theorem noOperator_address : NoOperator (addressWords ip wild ++ rest) := by
  have digit (keyword : String) (letter : keyword.toList.head?.all (fun c => !c.isDigit)) :=
    isMatch_digit (inetNtoa_digit ip) letter
  intro word first
  unfold addressWords at first
  split_ifs at first
  · simp only [List.cons_append, List.head?_cons, Option.mem_def, Option.some.injEq] at first
    rw [← first]
    decide
  · simp only [List.cons_append, List.head?_cons, Option.mem_def, Option.some.injEq] at first
    rw [← first]
    decide
  · simp only [List.cons_append, List.head?_cons, Option.mem_def, Option.some.injEq] at first
    rw [← first, portOp, digit "eq" (by decide), digit "neq" (by decide), digit "gt" (by decide),
      digit "lt" (by decide), digit "range" (by decide)]
    rfl

theorem has_or {flags more : UInt8} {flag : TcpFlag} :
    Has (flags ||| more) flag ↔ Has flags flag ∨ Has more flag := by
  simp only [has_iff, UInt8.toNat_or, Nat.testBit_or, Bool.or_eq_true]

theorem has_mask {flag other : TcpFlag} : Has other.mask flag ↔ flag = other := by
  cases flag <;> cases other <;> decide

/-- A flag where it is asked for. -/
def withFlag (asked flags : UInt8) (flag : TcpFlag) : UInt8 :=
  if Has asked flag then flags ||| flag.mask else flags

theorem named_withFlag {asked flags : UInt8} (named : Named flags) (flag : TcpFlag) :
    Named (withFlag asked flags flag) := by
  unfold withFlag
  split_ifs
  · exact named.or (by cases flag <;> decide)
  · exact named

theorem has_withFlag {asked flags : UInt8} {flag other : TcpFlag} :
    Has (withFlag asked flags other) flag ↔
      Has flags flag ∨ flag = other ∧ Has asked flag := by
  unfold withFlag
  split_ifs with asks
  · rw [has_or, has_mask]
    constructor
    · rintro (had | rfl)
      · exact .inl had
      · exact .inr ⟨rfl, asks⟩
    · exact Or.imp_right And.left
  · constructor
    · exact .inl
    · rintro (had | ⟨rfl, asked⟩)
      · exact had
      · exact absurd asked asks

theorem foldl_withFlag {asked : UInt8} (named : Named asked) :
    TcpFlag.all.foldl (withFlag asked) 0 = asked := by
  have grows (flags : List TcpFlag) (start : UInt8) (before : Named start) :
      Named (flags.foldl (withFlag asked) start) ∧ ∀ flag,
        Has (flags.foldl (withFlag asked) start) flag ↔
          Has start flag ∨ flag ∈ flags ∧ Has asked flag := by
    induction flags generalizing start with
    | nil => exact ⟨before, by simp⟩
    | cons other flags ih =>
        have ⟨named', has'⟩ := ih _ (@named_withFlag asked _ before other)
        refine ⟨named', fun flag => ?_⟩
        rw [List.foldl_cons, has' flag, has_withFlag, List.mem_cons, or_and_right, or_assoc]
  have ⟨named', has'⟩ := grows TcpFlag.all 0 named_zero
  refine named_ext named' named fun flag => ?_
  have absent : ¬ Has 0 flag := by cases flag <;> decide
  simp [has', absent, flag.mem_all]

theorem tcpFlag?_name : tcpFlag? flag.name.toList = some flag.mask := by
  cases flag <;> decide

theorem parseSigned_signed (start : Flags) (rest : List Word) :
    parseSigned start (signedWords tcp flag ++ rest) =
      parseSigned { start with
        sflags := withFlag tcp.sflags start.sflags flag
        cflags := withFlag tcp.cflags start.cflags flag } rest := by
  unfold signedWords withFlag
  split_ifs
  all_goals simp only [List.nil_append, List.cons_append, parseSigned, tcpFlag?_name]

theorem parseSigned_flags (flags : List TcpFlag) (start : Flags) :
    parseSigned start (flags.flatMap (signedWords tcp)) =
      .ok ({ start with
        sflags := flags.foldl (withFlag tcp.sflags) start.sflags
        cflags := flags.foldl (withFlag tcp.cflags) start.cflags }, []) := by
  induction flags generalizing start with
  | nil => rfl
  | cons flag flags ih => rw [List.flatMap_cons, parseSigned_signed, ih]; rfl

theorem signedWords_ne {tcp : Flags} (set : Named tcp.sflags) (clear : Named tcp.cflags)
    (some : tcp.Some) : TcpFlag.all.flatMap (signedWords tcp) ≠ [] := by
  have asks {asked : UInt8} (named : Named asked) (nonzero : asked ≠ 0) :
      ∃ flag, Has asked flag := by
    by_contra none
    refine nonzero (named_ext named named_zero fun flag => ?_)
    exact iff_of_false (fun has => none ⟨flag, has⟩) (by cases flag <;> decide)
  obtain ⟨flag, has⟩ : ∃ flag, Has tcp.sflags flag ∨ Has tcp.cflags flag := by
    rcases some with nonzero | nonzero
    · exact (asks set nonzero).imp fun _ => .inl
    · exact (asks clear nonzero).imp fun _ => .inr
  intro nil
  have none := List.flatMap_eq_nil_iff.mp nil flag flag.mem_all
  unfold signedWords at none
  rcases has with has | has <;> simp [has] at none

theorem parseFlags_matching {tcp : Flags} (op : matchOp word = tcp.op)
    (set : Named tcp.sflags) (clear : Named tcp.cflags) (some : tcp.Some)
    (keyword : isMatch "established" word = false ∧ (word = "match-any".toList ∨
      word = "match-an".toList ∨ word = "match-all".toList ∨ word = "match-al".toList)) :
    parseFlags ipprotoTcp (word :: TcpFlag.all.flatMap (signedWords tcp)) = .ok (tcp, []) := by
  have read := parseSigned_flags tcp TcpFlag.all { op := tcp.op }
  rw [foldl_withFlag set, foldl_withFlag clear] at read
  obtain ⟨next, words, eq⟩ := List.exists_cons_of_ne_nil (signedWords_ne set clear some)
  rw [eq] at read ⊢
  unfold parseFlags
  simp only [keyword.1, keyword.2, op, read]
  rfl

theorem parseFlags_words {proto : UInt8} {tcp : Flags} (formed : tcp.Formed)
    (ofTcp : tcp.op ≠ .none → proto = ipprotoTcp) {rest : List Word}
    (last : rest = [] ∨ rest = ["fragments".toList] ∧ tcp.op = .none) :
    parseFlags proto (flagWords tcp ++ rest) = .ok (tcp, rest) := by
  obtain ⟨op, sflags, cflags⟩ := tcp
  cases op with
  | none =>
      obtain ⟨rfl, rfl⟩ : sflags = 0 ∧ cflags = 0 := formed
      rcases last with rfl | ⟨rfl, -⟩
      · unfold parseFlags
        split_ifs <;> rfl
      · unfold parseFlags
        split_ifs
        · rfl
        · decide
  | est =>
      obtain ⟨rfl, rfl⟩ : sflags = 0 ∧ cflags = 0 := formed
      obtain rfl := ofTcp (by simp)
      obtain rfl := last.resolve_right (by simp)
      decide
  | any =>
      have op : matchOp "match-any".toList = .any := by decide
      obtain rfl := ofTcp (by simp)
      obtain rfl := last.resolve_right (by simp)
      rw [List.append_nil]
      exact parseFlags_matching op formed.1 formed.2.1 formed.2.2 (by decide)
  | all =>
      have op : matchOp "match-all".toList = .all := by decide
      obtain rfl := ofTcp (by simp)
      obtain rfl := last.resolve_right (by simp)
      rw [List.append_nil]
      exact parseFlags_matching op formed.1 formed.2.1 formed.2.2 (by decide)

/-- The end of a rule's words. -/
def fragmentWords (rule : Rule) : List Word := if rule.frag then ["fragments".toList] else []

theorem ruleWords_ext (rule : Rule) :
    ruleWords true rule =
      protoWord rule.proto :: (addressWords rule.src.ip rule.src.wild ++
        (portWords rule.src.ports ++ (addressWords rule.dst.ip rule.dst.wild ++
          (portWords rule.dst.ports ++ (flagWords rule.tcp ++ fragmentWords rule))))) := by
  unfold ruleWords
  rw [if_pos rfl]
  simp only [fragmentWords, List.append_assoc]

theorem parseProto_word {proto : UInt8}
    (known : proto = ipprotoIp ∨ proto = ipprotoTcp ∨ proto = ipprotoUdp) :
    parseProto (protoWord proto) = .ok proto := by
  rcases known with rfl | rfl | rfl <;> decide

theorem commandAction_word (acts : rule.action ≠ .none) :
    commandAction (actionWord rule) = rule.action := by
  unfold actionWord
  cases action : rule.action with
  | none => exact absurd action acts
  | deny | permit => decide

theorem noOperator_flags (rule : Rule) : NoOperator (flagWords rule.tcp ++ fragmentWords rule) := by
  intro word first
  unfold flagWords fragmentWords at first
  cases op : rule.tcp.op <;> cases frag : rule.frag <;> simp only [op, frag] at first
  all_goals first
    | contradiction
    | (simp only [List.cons_append, List.nil_append, List.head?_cons, if_true, Option.mem_def,
        Option.some.injEq] at first
       rw [← first]
       decide)

theorem parseFragments_words (formed : rule.Formed) :
    parseFragments { rule with frag := false } (fragmentWords rule) = .ok rule := by
  unfold fragmentWords
  cases frag : rule.frag with
  | false =>
      rw [if_neg (by simp), ← frag]
      rfl
  | true =>
      have layer4 : ({ rule with frag := false } : Rule).layer4 = false := formed.frag frag
      have keyword : isMatch "fragments" "fragments".toList = true := by decide
      rw [if_pos rfl]
      simp only [parseFragments.eq_def, keyword, layer4, if_true, Bool.false_eq_true, if_false]
      rw [← frag]

theorem accessListRuleExt_words (formed : rule.Formed) :
    accessListRuleExt (actionWord rule) (ruleWords true rule) = .ok rule := by
  have addressLength (ip wild : UInt32) : 1 ≤ (addressWords ip wild).length := by
    unfold addressWords
    split_ifs <;> simp
  have src := addressLength rule.src.ip rule.src.wild
  have dst := addressLength rule.dst.ip rule.dst.wild
  have flags := @parseFlags_words _ _ formed.tcp formed.flags (fragmentWords rule) (by
    unfold fragmentWords
    split_ifs with frag
    · have layer4 := formed.frag frag
      simp only [Rule.layer4, decide_eq_false_iff_not, not_or, not_not] at layer4
      exact .inr ⟨rfl, layer4.2.2⟩
    · exact .inl rfl)
  have enough : ¬ (ruleWords true rule).length < 3 := by
    rw [ruleWords_ext]
    simp only [List.length_cons, List.length_append]
    omega
  unfold accessListRuleExt
  rw [if_neg enough, ruleWords_ext]
  simp only
  rw [parseProto_word formed.proto]
  change (parseSide _ _ _ >>= _) = _
  rw [parseSide_words _ formed.src (fun ip => (formed.ip ip).1) (noOperator_address _ _ _)]
  change (parseSide _ _ _ >>= _) = _
  rw [parseSide_words _ formed.dst (fun ip => (formed.ip ip).2) (noOperator_flags rule)]
  change (parseFlags _ _ >>= _) = _
  rw [flags, commandAction_word formed.acts]
  exact (congrArg (parseFragments · _) (by rw [← formed.counter])).trans
    (parseFragments_words formed)

theorem accessListRuleStd_words {ip wild : UInt32} :
    accessListRuleStd (actionWord (stdRule command ip wild))
      (ruleWords false (stdRule command ip wild)) = .ok (stdRule command ip wild) := by
  have action := commandAction_word (stdRule_formed command ip wild).acts
  have notAny := @isMatch_digit "any" _ (inetNtoa_digit ip) (by decide)
  have notHost := @isMatch_digit "host" _ (inetNtoa_digit ip) (by decide)
  have any : isMatch "any" "any".toList = true := by decide
  have host : isMatch "any" "host".toList = false ∧ isMatch "host" "host".toList = true := by
    decide
  have words : ruleWords false (stdRule command ip wild) = addressWords ip wild := rfl
  rw [words]
  generalize actionWord (stdRule command ip wild) = printed at action ⊢
  unfold addressWords stdRule at *
  split_ifs with all one
  · simp only [accessListRuleStd.eq_def, any, if_true, action, all]
  · simp only [accessListRuleStd.eq_def, host.1, host.2, parseIp_inetNtoa, action, one]
    rfl
  · simp only [accessListRuleStd.eq_def, notAny, notHost, parseIp_inetNtoa, action]
    rfl

theorem plain_address {ip wild : UInt32} (mem : word ∈ addressWords ip wild) : Plain word := by
  unfold addressWords at mem
  split_ifs at mem
  · obtain rfl := List.mem_singleton.mp mem
    decide
  · simp only [List.mem_cons, List.not_mem_nil, or_false] at mem
    rcases mem with rfl | rfl
    · decide
    · exact plain_inetNtoa ip
  · simp only [List.mem_cons, List.not_mem_nil, or_false] at mem
    rcases mem with rfl | rfl
    · exact plain_inetNtoa ip
    · exact plain_inetNtoa wild

theorem plain_ports (mem : word ∈ portWords ports) : Plain word := by
  unfold portWords at mem
  cases op : ports.op
  all_goals
    simp only [op, List.mem_cons, List.not_mem_nil, or_false] at mem
  case range =>
    rcases mem with rfl | rfl | rfl
    · decide
    · exact plain_decimal _
    · exact plain_decimal _
  all_goals
    rcases mem with rfl | rfl
    · decide
    · exact plain_decimal _

theorem plain_signed {tcp : Flags} {flag : TcpFlag}
    (mem : word ∈ signedWords tcp flag) : Plain word := by
  have plus : Plain ('+' :: flag.name.toList) := by cases flag <;> decide
  have minus : Plain ('-' :: flag.name.toList) := by cases flag <;> decide
  unfold signedWords at mem
  split_ifs at mem
  all_goals
    simp only [List.mem_append, List.mem_singleton, List.not_mem_nil, or_false, false_or] at mem
  · rcases mem with rfl | rfl
    · exact plus
    · exact minus
  · exact mem ▸ plus
  · exact mem ▸ minus

theorem plain_flags {tcp : Flags} (mem : word ∈ flagWords tcp) : Plain word := by
  unfold flagWords at mem
  cases op : tcp.op
  all_goals
    simp only [op, List.mem_cons, List.not_mem_nil, or_false, List.mem_flatMap] at mem
  case est => exact mem ▸ (by decide)
  all_goals
    rcases mem with rfl | ⟨flag, -, mem⟩
    · decide
    · exact plain_signed mem

theorem plain_rule (mem : word ∈ actionWord rule :: ruleWords extended rule) : Plain word := by
  have action : Plain (actionWord rule) := by
    unfold actionWord
    split_ifs <;> decide
  have proto : Plain (protoWord rule.proto) := by
    unfold protoWord
    split_ifs <;> decide
  rcases List.mem_cons.mp mem with rfl | mem
  · exact action
  cases extended with
  | false => exact plain_address mem
  | true =>
      rw [ruleWords_ext, List.mem_cons] at mem
      simp only [List.mem_append] at mem
      rcases mem with rfl | mem | mem | mem | mem | mem | mem
      · exact proto
      · exact plain_address mem
      · exact plain_ports mem
      · exact plain_address mem
      · exact plain_ports mem
      · exact plain_flags mem
      · unfold fragmentWords at mem
        split_ifs at mem
        · obtain rfl := List.mem_singleton.mp mem
          decide
        · simp at mem

theorem not_help (marks : AsksByMark helpRequested)
    (extended : Bool) (rule : Rule) : helpRequested (ruleWords extended rule) = false := by
  by_contra asks
  obtain ⟨word, mem, mark⟩ := marks _ (by simpa using asks)
  exact (plain_rule (List.mem_cons_of_mem (actionWord rule) mem)).2 mark

/-- What the parser of a kind accepts. -/
structure Rule.Parsed (extended : Bool) (rule : Rule) : Prop where
  formed : rule.Formed
  std : extended = false → ∃ command ip wild, rule = stdRule command ip wild

theorem Accepts.parsed {argv : List Word}
    (accepts : Accepts helpRequested extended command argv rule) : rule.Parsed extended := by
  refine ⟨accepts.formed, ?_⟩
  rintro rfl
  unfold Accepts accessListRule at accepts
  split_ifs at accepts with help extended
  · cases extended
  · obtain ⟨ip, wild, eq⟩ := accessListRuleStd_ok (Option.some.inj accepts)
    exact ⟨command, ip, wild, eq⟩

theorem accepts_words (marks : AsksByMark helpRequested) (parsed : rule.Parsed extended) :
    Accepts helpRequested extended (actionWord rule) (ruleWords extended rule) rule := by
  unfold Accepts accessListRule
  rw [if_neg (by simp [not_help marks])]
  cases extended with
  | true =>
      rw [if_pos rfl]
      exact congrArg some (accessListRuleExt_words parsed.formed)
  | false =>
      obtain ⟨command, ip, wild, rfl⟩ := parsed.std rfl
      exact congrArg some accessListRuleStd_words

theorem splitBlanks_shown (knows : KnowsProtocols getprotobynumber) (formed : rule.Formed) :
    splitBlanks (showAccessListRule getprotobynumber extended rule) =
      actionWord rule :: ruleWords extended rule := by
  rw [showAccessListRule_words knows extended formed]
  exact splitBlanks_words fun word mem => (plain_rule mem).1

/-- **A printed rule is read back.** The text of an accepted rule splits into a command and
arguments that the same parser accepts as the same rule. -/
theorem accepts_shown (marks : AsksByMark helpRequested) (knows : KnowsProtocols getprotobynumber)
    {argv : List Word} (accepts : Accepts helpRequested extended command argv rule) :
    ∃ command' argv',
      splitBlanks (showAccessListRule getprotobynumber extended rule) = command' :: argv' ∧
        (command' = "permit".toList ∨ command' = "deny".toList) ∧
        Accepts helpRequested extended command' argv' rule := by
  refine ⟨_, _, splitBlanks_shown knows accepts.formed, ?_, accepts_words marks accepts.parsed⟩
  unfold actionWord
  split_ifs
  · exact .inl rfl
  · exact .inr rfl

end L2tpns.AccessList
