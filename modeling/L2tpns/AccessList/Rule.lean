import L2tpns.Cli.Words
import L2tpns.Foundation.RuleBase

/-! # Access list rules and the commands that enter them

The rule record of an IP filter, the parsers of the two kinds of rules and the command that
stores a rule in the filter under edit. Words of a command line are texts without a NUL; a
`.error` carries what the command prints.
-/

namespace L2tpns.AccessList

open Foundation.CText Foundation.RuleBase Cli

/-- `FILTER_ACTION_*`; 0 ends the rules of a filter. -/
inductive Action
  | none
  | deny
  | permit
deriving DecidableEq, Repr

/-- `FILTER_PORT_OP_*` -/
inductive PortOp
  | none
  | eq
  | neq
  | gt
  | lt
  | range
deriving DecidableEq, Repr

/-- `ip_filter_portt` -/
structure Ports where
  op : PortOp := .none
  port : UInt16 := 0
  port2 : UInt16 := 0
deriving DecidableEq, Repr

/-- The address, the wildcard bits and the ports that a rule has for one end. -/
structure Side where
  ip : UInt32 := 0
  wild : UInt32 := 0
  ports : Ports := {}
deriving DecidableEq, Repr

/-- `FILTER_FLAG_OP_*` -/
inductive FlagOp
  | none
  | any
  | all
  | est
deriving DecidableEq, Repr

/-- The TCP flag conditions of a rule. -/
structure Flags where
  op : FlagOp := .none
  sflags : UInt8 := 0
  cflags : UInt8 := 0
deriving DecidableEq, Repr

/-- `ip_filter_rulet` -/
structure Rule where
  action : Action := .none
  proto : UInt8 := 0
  src : Side := {}
  dst : Side := {}
  frag : Bool := false
  tcp : Flags := {}
  counter : UInt32 := 0
deriving DecidableEq, Repr

/-- The part of a rule before its counter, which `memcmp` compares. -/
def Rule.key (rule : Rule) : Rule := { rule with counter := 0 }

/-- A rule looks at ports or flags. -/
def Rule.layer4 (rule : Rule) : Bool :=
  rule.src.ports.op ≠ .none ∨ rule.dst.ports.op ≠ .none ∨ rule.tcp.op ≠ .none

def inaddrAny : UInt32 := 0
def inaddrBroadcast : UInt32 := 0xffffffff

def ipprotoIp : UInt8 := 0
def ipprotoTcp : UInt8 := 6
def ipprotoUdp : UInt8 := 17

def tcpFlagFin : UInt8 := 0x01
def tcpFlagSyn : UInt8 := 0x02
def tcpFlagRst : UInt8 := 0x04
def tcpFlagPsh : UInt8 := 0x08
def tcpFlagAck : UInt8 := 0x10
def tcpFlagUrg : UInt8 := 0x20

/-- `MAXFILTER_RULES` -/
def maxFilterRules : Nat := 32

/-- `inet_aton` or the message that it failed. -/
def parseIp (word : Word) : Except String UInt32 :=
  match inetAton word with
  | some addr => .ok addr
  | none => .error (quoting "Cannot parse IP" word)

/-- What a rule says of an address, and the words after it. `missing` is what is printed for an
address without wildcard bits. -/
def parseAddress (missing : String) : List Word → Except String (UInt32 × UInt32 × List Word)
  | [] => .error "Specify destination"
  | word :: rest =>
      if isMatch "any" word then .ok (inaddrAny, inaddrBroadcast, rest)
      else if isMatch "host" word then
        match rest with
        | [] => .error "Specify host ip address"
        | host :: rest => do
            let addr ← parseIp host
            return (addr, inaddrAny, rest)
      else
        match rest with
        | [] => .error missing
        | wildcard :: rest => do
            let addr ← parseIp word
            let wild ← parseIp wildcard
            return (addr, wild, rest)

/-- The operator that a word abbreviates. -/
def portOp (word : Word) : PortOp :=
  if isMatch "eq" word then .eq
  else if isMatch "neq" word then .neq
  else if isMatch "gt" word then .gt
  else if isMatch "lt" word then .lt
  else if isMatch "range" word then .range
  else .none

/-- `atoi` into 16 bits, where 0 is no port. -/
def parsePort (word : Word) : Except String UInt16 :=
  let port := UInt16.ofNat ((atoi word).emod (2 ^ 16)).toNat
  if port = 0 then .error (quoting "Invalid port" word) else .ok port

/-- What a rule says of ports, and the words after it. -/
def parsePorts : List Word → Except String (Ports × List Word)
  | [] => .ok ({}, [])
  | word :: rest =>
      if portOp word = .none then .ok ({}, word :: rest)
      else
        match rest with
        | [] => .error "Specify port"
        | first :: rest => do
            let port ← parsePort first
            if portOp word ≠ .range then return ({ op := portOp word, port := port }, rest)
            else
              match rest with
              | [] => .error "Specify port"
              | second :: rest => do
                  let port2 ← parsePort second
                  if port2 < port then .error (quoting "Invalid port" second)
                  else return ({ op := portOp word, port := port, port2 := port2 }, rest)

/-- One pass of the loop over source and destination. -/
def parseSide (proto : UInt8) (missing : String) (words : List Word) :
    Except String (Side × List Word) := do
  let (ip, wild, rest) ← parseAddress missing words
  if proto = ipprotoIp then return ({ ip := ip, wild := wild }, rest)
  else
    let (ports, rest) ← parsePorts rest
    return ({ ip := ip, wild := wild, ports := ports }, rest)

/-- The flag that a word behind its sign abbreviates. -/
def tcpFlag? (word : Word) : Option UInt8 :=
  if isMatch "fin" word then some tcpFlagFin
  else if isMatch "syn" word then some tcpFlagSyn
  else if isMatch "rst" word then some tcpFlagRst
  else if isMatch "psh" word then some tcpFlagPsh
  else if isMatch "ack" word then some tcpFlagAck
  else if isMatch "urg" word then some tcpFlagUrg
  else none

/-- The loop over the signed flags. -/
def parseSigned (flags : Flags) : List Word → Except String (Flags × List Word)
  | ('+' :: name) :: rest =>
      match tcpFlag? name with
      | some flag => parseSigned { flags with sflags := flags.sflags ||| flag } rest
      | none => .error (quoting "Invalid tcp flag" ('+' :: name))
  | ('-' :: name) :: rest =>
      match tcpFlag? name with
      | some flag => parseSigned { flags with cflags := flags.cflags ||| flag } rest
      | none => .error (quoting "Invalid tcp flag" ('-' :: name))
  | rest => .ok (flags, rest)

/-- `match-any` or `match-all` by the letter in which they differ. -/
def matchOp (word : Word) : FlagOp := if word[7]? = some 'n' then .any else .all

/-- What a rule says of TCP flags, and the words after it. -/
def parseFlags (proto : UInt8) (words : List Word) : Except String (Flags × List Word) :=
  if proto ≠ ipprotoTcp then .ok ({}, words)
  else
    match words with
    | [] => .ok ({}, [])
    | word :: rest =>
        if isMatch "established" word then .ok ({ op := .est }, rest)
        else if word = "match-any".toList ∨ word = "match-an".toList ∨
            word = "match-all".toList ∨ word = "match-al".toList then
          match rest with
          | [] => .error "Specify tcp flags"
          | _ => parseSigned { op := matchOp word } rest
        else .ok ({}, word :: rest)

/-- The protocol that a word abbreviates. -/
def parseProto (word : Word) : Except String UInt8 :=
  if isMatch "ip" word then .ok ipprotoIp
  else if isMatch "udp" word then .ok ipprotoUdp
  else if isMatch "tcp" word then .ok ipprotoTcp
  else .error (quoting "Invalid protocol" word)

/-- The end of a rule: `fragments` or nothing. -/
def parseFragments (rule : Rule) : List Word → Except String Rule
  | [] => .ok rule
  | word :: rest =>
      if isMatch "fragments" word then
        if rule.layer4 then
          .error "Can't specify \"fragments\" on rules with layer 4 matches"
        else
          match rest with
          | [] => .ok { rule with frag := true }
          | next :: _ => .error (quoting "Invalid flag" next)
      else .error (quoting "Invalid flag" word)

/-- `FILTER_ACTION_PERMIT` for the command `permit`. -/
def commandAction (command : Word) : Action :=
  if command.head? = some 'p' then .permit else .deny

/-- `access_list_rule_ext` where no help is requested. -/
def accessListRuleExt (command : Word) (argv : List Word) : Except String Rule :=
  if argv.length < 3 then .error "Specify rule details"
  else
    match argv with
    | [] => .error "Specify rule details"
    | first :: rest => do
        let proto ← parseProto first
        let (src, rest) ← parseSide proto "Specify source ip address and wildcard" rest
        let (dst, rest) ← parseSide proto "Specify destination ip address and wildcard" rest
        let (tcp, rest) ← parseFlags proto rest
        parseFragments
          { action := commandAction command, proto := proto, src := src, dst := dst, tcp := tcp }
          rest

/-- `access_list_rule_std` where no help is requested. -/
def accessListRuleStd (command : Word) : List Word → Except String Rule
  | [] => .error "Specify rule details"
  | first :: rest =>
      let rule : Rule := { action := commandAction command, proto := ipprotoIp }
      if isMatch "any" first then
        .ok { rule with src := { ip := inaddrAny, wild := inaddrBroadcast } }
      else if isMatch "host" first then
        match rest with
        | [host] => do
            let addr ← parseIp host
            return { rule with src := { ip := addr, wild := inaddrAny } }
        | _ => .error "Specify host ip address"
      else
        match rest with
        | [] => do
            let addr ← parseIp first
            return { rule with src := { ip := addr, wild := inaddrAny } }
        | [wildcard] => do
            let addr ← parseIp first
            let wild ← parseIp wildcard
            return { rule with src := { ip := addr, wild := wild } }
        | _ => .error "Specify source ip address and wildcard"

/-- A port condition that was parsed. -/
def Ports.Formed (ports : Ports) : Prop :=
  match ports.op with
  | .none => ports.port = 0 ∧ ports.port2 = 0
  | .range => ports.port ≠ 0 ∧ ports.port ≤ ports.port2
  | _ => ports.port ≠ 0 ∧ ports.port2 = 0

/-- The byte has flags with a name only, the lower six. -/
def Named (flags : UInt8) : Prop := flags.toNat < 2 ^ 6

instance (flags : UInt8) : Decidable (Named flags) := inferInstanceAs (Decidable (_ < _))

/-- A flag condition that was parsed. -/
def Flags.Formed (tcp : Flags) : Prop :=
  match tcp.op with
  | .none => tcp.sflags = 0 ∧ tcp.cflags = 0
  | .est => tcp.sflags = 0 ∧ tcp.cflags = 0
  | _ => Named tcp.sflags ∧ Named tcp.cflags ∧ (tcp.sflags ≠ 0 ∨ tcp.cflags ≠ 0)

/-- A rule that was parsed. -/
structure Rule.Formed (rule : Rule) : Prop where
  acts : rule.action ≠ .none
  proto : rule.proto = ipprotoIp ∨ rule.proto = ipprotoTcp ∨ rule.proto = ipprotoUdp
  src : rule.src.ports.Formed
  dst : rule.dst.ports.Formed
  ip : rule.proto = ipprotoIp → rule.src.ports = {} ∧ rule.dst.ports = {}
  tcp : rule.tcp.Formed
  flags : rule.tcp.op ≠ .none → rule.proto = ipprotoTcp
  frag : rule.frag = true → rule.layer4 = false
  counter : rule.counter = 0

theorem bind_ok_iff {ε : Type*} {α β : Type} {x : Except ε α} {f : α → Except ε β} {b : β} :
    (x >>= f) = .ok b ↔ ∃ a, x = .ok a ∧ f a = .ok b := by
  cases x with
  | error e | ok a => simp [bind, Except.bind]

theorem commandAction_ne (command : Word) : commandAction command ≠ .none := by
  unfold commandAction
  split <;> simp

variable {command word : Word} {proto : UInt8} {words rest argv : List Word} {tcp : Flags}
  {rule : Rule} {entries slots : List Rule}

theorem parseProto_mem (parsed : parseProto word = .ok proto) :
    proto = ipprotoIp ∨ proto = ipprotoTcp ∨ proto = ipprotoUdp := by
  unfold parseProto at parsed
  split_ifs at parsed <;> cases parsed <;> simp

theorem parsePort_ne {port : UInt16} (parsed : parsePort word = .ok port) : port ≠ 0 := by
  unfold parsePort at parsed
  simp only at parsed
  split_ifs at parsed with zero
  cases parsed
  exact zero

theorem parsePorts_formed {ports : Ports}
    (parsed : parsePorts words = .ok (ports, rest)) : ports.Formed := by
  cases words with
  | nil =>
      cases parsed
      exact ⟨rfl, rfl⟩
  | cons word words =>
      simp only [parsePorts.eq_def] at parsed
      by_cases plain : portOp word = .none
      · rw [if_pos plain] at parsed
        cases parsed
        exact ⟨rfl, rfl⟩
      rw [if_neg plain] at parsed
      cases words with
      | nil => cases parsed
      | cons first words =>
          obtain ⟨port, first_ok, parsed⟩ := bind_ok_iff.mp parsed
          have positive := parsePort_ne first_ok
          by_cases range : portOp word = .range
          · rw [if_neg (not_not.mpr range)] at parsed
            cases words with
            | nil => cases parsed
            | cons second words =>
                simp only at parsed
                obtain ⟨port2, -, parsed⟩ := bind_ok_iff.mp parsed
                split_ifs at parsed with below
                cases parsed
                simp only [Ports.Formed, range]
                exact ⟨positive, UInt16.not_lt.mp below⟩
          · rw [if_pos range] at parsed
            cases parsed
            unfold Ports.Formed
            cases op : portOp word
            case none => exact absurd op plain
            case range => exact absurd op range
            all_goals exact ⟨positive, rfl⟩

theorem parseSide_formed {missing : String} {side : Side}
    (parsed : parseSide proto missing words = .ok (side, rest)) :
    side.ports.Formed ∧ (proto = ipprotoIp → side.ports = {}) := by
  obtain ⟨⟨ip, wild, more⟩, -, parsed⟩ := bind_ok_iff.mp parsed
  simp only at parsed
  by_cases ipOnly : proto = ipprotoIp
  · rw [if_pos ipOnly] at parsed
    cases parsed
    exact ⟨⟨rfl, rfl⟩, fun _ => rfl⟩
  · rw [if_neg ipOnly] at parsed
    obtain ⟨⟨ports, more⟩, ports_ok, parsed⟩ := bind_ok_iff.mp parsed
    cases parsed
    exact ⟨parsePorts_formed ports_ok, fun h => absurd h ipOnly⟩

theorem named_zero : Named 0 := by decide

theorem tcpFlag?_named {flag : UInt8} (found : tcpFlag? word = some flag) :
    Named flag ∧ flag ≠ 0 := by
  unfold tcpFlag? at found
  split_ifs at found <;> cases found <;> exact ⟨by decide, by decide⟩

theorem Named.or {first second : UInt8} (one : Named first) (two : Named second) :
    Named (first ||| second) := by
  rw [Named, UInt8.toNat_or]
  exact Nat.or_lt_two_pow one two

theorem or_ne_zero {flags flag : UInt8} (named : flag ≠ 0) : flags ||| flag ≠ 0 := by
  intro zero
  rw [← UInt8.toNat_inj, UInt8.toNat_or] at zero
  exact named (UInt8.toNat_inj.mp (by simpa using (Nat.or_eq_zero_iff.mp zero).2))

/-- What is kept while the signed flags are read: the condition `op` with named flags. -/
structure Flags.Read (op : FlagOp) (tcp : Flags) : Prop where
  op : tcp.op = op
  set : Named tcp.sflags
  clear : Named tcp.cflags

def Flags.Some (tcp : Flags) : Prop := tcp.sflags ≠ 0 ∨ tcp.cflags ≠ 0

theorem parseSigned_read {op : FlagOp} {start : Flags}
    (parsed : parseSigned start words = .ok (tcp, rest)) (before : start.Read op)
    (some : start.Some ∨ words ≠ []) : tcp.Read op ∧ (tcp.Some ∨ rest ≠ []) := by
  fun_induction parseSigned start words with
  | case1 start name words flag found ih =>
      have ⟨named, nonzero⟩ := tcpFlag?_named found
      exact ih parsed ⟨before.op, before.set.or named, before.clear⟩
        (.inl (.inl (or_ne_zero nonzero)))
  | case2 => cases parsed
  | case3 start name words flag found ih =>
      have ⟨named, nonzero⟩ := tcpFlag?_named found
      exact ih parsed ⟨before.op, before.set, before.clear.or named⟩
        (.inl (.inr (or_ne_zero nonzero)))
  | case4 => cases parsed
  | case5 start words =>
      cases parsed
      exact ⟨before, some⟩

theorem Flags.Read.formed {op : FlagOp} (read : tcp.Read op)
    (matching : op = .any ∨ op = .all) (some : tcp.Some) : tcp.Formed := by
  have eq := read.op
  unfold Flags.Formed
  rcases matching with rfl | rfl <;> rw [eq] <;> exact ⟨read.set, read.clear, some⟩

theorem matchOp_cases (word : Word) : matchOp word = .any ∨ matchOp word = .all := by
  unfold matchOp
  split <;> simp

theorem parseFlags_read (parsed : parseFlags proto words = .ok (tcp, rest)) :
    (tcp.op ≠ .none → proto = ipprotoTcp) ∧ (rest = [] ∨ tcp.op = .none → tcp.Formed) := by
  unfold parseFlags at parsed
  by_cases other : proto ≠ ipprotoTcp
  · rw [if_pos other] at parsed
    cases parsed
    exact ⟨fun h => absurd rfl h, fun _ => ⟨rfl, rfl⟩⟩
  rw [if_neg other] at parsed
  refine ⟨fun _ => not_not.mp other, fun done => ?_⟩
  cases words with
  | nil =>
      cases parsed
      exact ⟨rfl, rfl⟩
  | cons word words =>
      simp only at parsed
      split_ifs at parsed with established matching
      · cases parsed
        exact ⟨rfl, rfl⟩
      · cases words with
        | nil => cases parsed
        | cons next words =>
            simp only at parsed
            have ⟨read, nonempty⟩ :=
              parseSigned_read parsed ⟨rfl, named_zero, named_zero⟩ (.inr (by simp))
            have ended : rest = [] := done.resolve_right fun none => by
              rcases matchOp_cases word with op | op <;> simp [read.op, op] at none
            exact read.formed (matchOp_cases word) (nonempty.resolve_right (not_not.mpr ended))
      · cases parsed
        exact ⟨rfl, rfl⟩

theorem parseFragments_ok {accepted : Rule} (parsed : parseFragments rule words = .ok accepted) :
    (words = [] ∧ accepted = rule) ∨
      (rule.layer4 = false ∧ accepted = { rule with frag := true } ∧
        ∃ word, words = [word] ∧ isMatch "fragments" word) := by
  cases words with
  | nil =>
      cases parsed
      exact .inl ⟨rfl, rfl⟩
  | cons word words =>
      simp only [parseFragments.eq_def] at parsed
      split_ifs at parsed with fragments layer4
      cases words with
      | nil =>
          cases parsed
          exact .inr ⟨by simpa using layer4, rfl, word, rfl, fragments⟩
      | cons next words => cases parsed

/-- **What `access_list_rule_ext` accepts is formed.** -/
theorem accessListRuleExt_formed
    (accepted : accessListRuleExt command argv = .ok rule) : rule.Formed := by
  unfold accessListRuleExt at accepted
  split_ifs at accepted
  cases argv with
  | nil => cases accepted
  | cons first words =>
      obtain ⟨proto, proto_ok, accepted⟩ := bind_ok_iff.mp accepted
      obtain ⟨⟨src, words⟩, src_ok, accepted⟩ := bind_ok_iff.mp accepted
      obtain ⟨⟨dst, words⟩, dst_ok, accepted⟩ := bind_ok_iff.mp accepted
      obtain ⟨⟨tcp, words⟩, tcp_ok, accepted⟩ := bind_ok_iff.mp accepted
      have ⟨srcFormed, srcIp⟩ := parseSide_formed src_ok
      have ⟨dstFormed, dstIp⟩ := parseSide_formed dst_ok
      have ⟨tcpFlags, tcpFormed⟩ := parseFlags_read tcp_ok
      rcases parseFragments_ok accepted with ⟨last, rfl⟩ | ⟨layer4, rfl, -⟩
      · exact ⟨commandAction_ne command, parseProto_mem proto_ok, srcFormed, dstFormed,
          fun ip => ⟨srcIp ip, dstIp ip⟩, tcpFormed (.inl last), tcpFlags, nofun, rfl⟩
      · have noFlags : tcp.op = .none := by
          simp only [Rule.layer4, decide_eq_false_iff_not, not_or, not_not] at layer4
          exact layer4.2.2
        exact ⟨commandAction_ne command, parseProto_mem proto_ok, srcFormed, dstFormed,
          fun ip => ⟨srcIp ip, dstIp ip⟩, tcpFormed (.inr noFlags), tcpFlags, fun _ => layer4, rfl⟩

/-- The rule of a standard list about a source. -/
def stdRule (command : Word) (ip wild : UInt32) : Rule where
  action := commandAction command
  proto := ipprotoIp
  src := { ip := ip, wild := wild }

theorem stdRule_formed (command : Word) (ip wild : UInt32) :
    (stdRule command ip wild).Formed where
  acts := commandAction_ne command
  proto := .inl rfl
  src := ⟨rfl, rfl⟩
  dst := ⟨rfl, rfl⟩
  ip := fun _ => ⟨rfl, rfl⟩
  tcp := ⟨rfl, rfl⟩
  flags := fun h => absurd rfl h
  frag := nofun
  counter := rfl

theorem accessListRuleStd_ok (accepted : accessListRuleStd command argv = .ok rule) :
    ∃ ip wild, rule = stdRule command ip wild := by
  cases argv with
  | nil => cases accepted
  | cons first words =>
      simp only [accessListRuleStd.eq_def] at accepted
      split_ifs at accepted
      · cases accepted
        exact ⟨_, _, rfl⟩
      · match words, accepted with
        | [host], accepted =>
            obtain ⟨addr, -, accepted⟩ := bind_ok_iff.mp accepted
            cases accepted
            exact ⟨_, _, rfl⟩
      · match words, accepted with
        | [], accepted =>
            obtain ⟨addr, -, accepted⟩ := bind_ok_iff.mp accepted
            cases accepted
            exact ⟨_, _, rfl⟩
        | [wildcard], accepted =>
            obtain ⟨addr, -, accepted⟩ := bind_ok_iff.mp accepted
            obtain ⟨wild, -, accepted⟩ := bind_ok_iff.mp accepted
            cases accepted
            exact ⟨_, _, rfl⟩

/-- The scan of `cmd_ip_access_list_rule` over as many slots as it may use: the slots after
it, and whether it found a place. `none` is a read outside the array. -/
def storeRule (rule : Rule) : Nat → List Rule → Option (List Rule × Bool)
  | 0, slots => some (slots, false)
  | _ + 1, [] => none
  | room + 1, slot :: slots =>
      if slot.action = .none then some (rule :: slots, true)
      else if slot.key = rule.key then some (slot :: slots, true)
      else (storeRule rule room slots).map fun (slots, stored) => (slot :: slots, stored)

/-- The parser of the filter's kind. A request for help prints help and has no rule. -/
def accessListRule (helpRequested : List Word → Bool) (extended : Bool) (command : Word)
    (argv : List Word) : Option (Except String Rule) :=
  if helpRequested argv then none
  else if extended then some (accessListRuleExt command argv)
  else some (accessListRuleStd command argv)

/-- `cmd_ip_access_list_rule` on the rules of the filter under edit: the rules after it and
what it prints. -/
def cmdIpAccessListRule (helpRequested : List Word → Bool) (extended : Bool) (slots : List Rule)
    (command : Word) (argv : List Word) : Option (List Rule × Option String) :=
  match accessListRule helpRequested extended command argv with
  | none => some (slots, none)
  | some (.error message) => some (slots, some message)
  | some (.ok rule) =>
      (storeRule rule (maxFilterRules - 1) slots).map fun (slots, stored) =>
        (slots, if stored then none else some "Too many rules")

/-- The parser of the filter's kind accepts the words. -/
def Accepts (helpRequested : List Word → Bool) (extended : Bool) (command : Word)
    (argv : List Word) (rule : Rule) : Prop :=
  accessListRule helpRequested extended command argv = some (.ok rule)

def enteredRule? (helpRequested : List Word → Bool) (extended : Bool) (command : Word)
    (argv : List Word) : Option Rule :=
  match accessListRule helpRequested extended command argv with
  | some (.ok rule) => some rule
  | _ => none

theorem Accepts.formed {helpRequested : List Word → Bool} {extended : Bool}
    (accepts : Accepts helpRequested extended command argv rule) : rule.Formed := by
  unfold Accepts accessListRule at accepts
  split_ifs at accepts
  · exact accessListRuleExt_formed (Option.some.inj accepts)
  · obtain ⟨ip, wild, rfl⟩ := accessListRuleStd_ok (Option.some.inj accepts)
    exact stdRule_formed command ip wild

/-- The slots hold the rules, up to their counters, and are empty after them. -/
structure Stores (slots entries : List Rule) : Prop where
  keys : slots.map Rule.key =
    entries ++ List.replicate (maxFilterRules - entries.length) ({} : Rule)
  room : entries.length < maxFilterRules
  formed : ∀ entry ∈ entries, entry.Formed

theorem Rule.Formed.key (formed : rule.Formed) : rule.key = rule := by
  rw [Rule.key, ← formed.counter]

theorem storeRule_keys (formed : rule.Formed) {free : Nat}
    (acts : ∀ entry ∈ entries, entry.action ≠ .none) {room : Nat} (fits : entries.length ≤ room)
    (ends : room < entries.length + free)
    (keys : slots.map Rule.key = entries ++ List.replicate free ({} : Rule)) :
    ∃ slots' stored, storeRule rule room slots = some (slots', stored) ∧
      slots'.map Rule.key = enter room entries rule ++
        List.replicate (entries.length + free - (enter room entries rule).length) ({} : Rule) := by
  induction entries generalizing room slots with
  | nil =>
      cases room with
      | zero => exact ⟨slots, false, rfl, by simpa [enter] using keys⟩
      | succ room =>
          obtain ⟨free, rfl⟩ : ∃ more, free = more + 1 := ⟨free - 1, by simp at ends; omega⟩
          cases slots with
          | nil => simp at keys
          | cons slot slots =>
              simp only [List.map_cons, List.nil_append, List.replicate_succ,
                List.cons.injEq] at keys
              have empty : slot.action = .none := congrArg Rule.action keys.1
              exact ⟨rule :: slots, true, by rw [storeRule, if_pos empty],
                by simp [enter, formed.key, keys.2]⟩
  | cons entry entries ih =>
      cases slots with
      | nil => simp at keys
      | cons slot slots =>
          simp only [List.map_cons, List.cons_append, List.cons.injEq] at keys
          simp only [List.length_cons] at fits ends
          obtain ⟨room, rfl⟩ : ∃ less, room = less + 1 := ⟨room - 1, by omega⟩
          have used : slot.action ≠ .none := by
            have same : slot.key.action = entry.action := congrArg Rule.action keys.1
            exact fun none => acts entry (by simp) (same.symm.trans none)
          have fewer : entries.length + 1 + free - (entries.length + 1) = free := by omega
          rw [storeRule, if_neg used]
          by_cases known : slot.key = rule.key
          · refine ⟨slot :: slots, true, if_pos known, ?_⟩
            have mem : rule ∈ entry :: entries := by
              rw [← keys.1, known, formed.key]
              simp
            simp [enter, mem, keys.1, keys.2, fewer]
          · have fits' : entries.length ≤ room := by omega
            have ends' : room < entries.length + free := by omega
            obtain ⟨slots', stored, eq, keys'⟩ :=
              ih (fun e mem => acts e (by simp [mem])) fits' ends' keys.2
            have other : entry ≠ rule := by
              rw [← keys.1, ← formed.key]
              exact known
            refine ⟨slot :: slots', stored, by rw [if_neg known, eq]; rfl, ?_⟩
            rw [enter_cons other, List.map_cons, keys', keys.1, List.cons_append, List.length_cons,
              List.length_cons]
            congr 3
            omega

theorem Stores.storeRule (stores : Stores slots entries) (formed : rule.Formed) :
    ∃ slots' stored, storeRule rule (maxFilterRules - 1) slots = some (slots', stored) ∧
      Stores slots' (enter (maxFilterRules - 1) entries rule) := by
  have room : entries.length ≤ maxFilterRules - 1 := Nat.le_sub_one_of_lt stores.room
  obtain ⟨slots', stored, eq, keys⟩ := storeRule_keys formed
    (fun entry mem => (stores.formed entry mem).acts) room (by have := stores.room; omega)
    stores.keys
  refine ⟨slots', stored, eq, ?_, ?_, ?_⟩
  · rw [keys]
    congr 3
    have := stores.room
    omega
  · have := enter_length room rule
    have : 0 < maxFilterRules := by decide
    omega
  · intro entry mem
    rcases mem_enter mem with old | rfl
    · exact stores.formed entry old
    · exact formed

theorem Stores.cmdIpAccessListRule (helpRequested : List Word → Bool) (extended : Bool)
    (stores : Stores slots entries) (command : Word) (argv : List Word) :
    ∃ slots' message,
      cmdIpAccessListRule helpRequested extended slots command argv = some (slots', message) ∧
        Stores slots' ((enteredRule? helpRequested extended command argv).toList.foldl
          (enter (maxFilterRules - 1)) entries) := by
  simp only [AccessList.cmdIpAccessListRule, enteredRule?]
  cases parsed : accessListRule helpRequested extended command argv with
  | none => exact ⟨slots, _, rfl, stores⟩
  | some answer =>
      cases answer with
      | error message => exact ⟨slots, _, rfl, stores⟩
      | ok rule =>
          have formed : rule.Formed := Accepts.formed parsed
          obtain ⟨slots', stored, eq, stores⟩ := stores.storeRule formed
          exact ⟨slots', _, by simp only [eq]; rfl, stores⟩

theorem stores_nil : Stores (List.replicate maxFilterRules {}) [] where
  keys := by simp [maxFilterRules, Rule.key]
  room := by decide
  formed := by simp

end L2tpns.AccessList
