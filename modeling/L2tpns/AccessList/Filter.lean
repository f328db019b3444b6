import L2tpns.AccessList.Rule
import Mathlib.Data.Nat.Bitwise

/-! # What an extended access list lets through

The matcher `ip_filter` on the bytes of a packet, and the plain meaning of a list: the first of
its rules that matches decides, and rules stand in the order in which they were first entered
(`L2tpns.AccessList.ipFilter_firstMatch`).
-/

namespace L2tpns.AccessList

open Cli

/-- `ip_filter_port` -/
def ipFilterPort (p : Ports) (port : UInt16) : Bool :=
  match p.op with
  | .eq => port = p.port
  | .neq => port ≠ p.port
  | .gt => port > p.port
  | .lt => port < p.port
  | .range => port ≥ p.port ∧ port ≤ p.port2
  | .none => false

/-- `ip_filter_flag` -/
def ipFilterFlag (tcp : Flags) (flags : UInt8) : Bool :=
  match tcp.op with
  | .any => flags &&& tcp.sflags ≠ 0 ∨ ~~~flags &&& tcp.cflags ≠ 0
  | .all => flags &&& tcp.sflags = tcp.sflags ∧ ~~~flags &&& tcp.cflags = tcp.cflags
  | .est => flags &&& (tcpFlagAck ||| tcpFlagRst) ≠ 0 ∧ ~~~flags &&& tcpFlagSyn ≠ 0
  | .none => false

/-- The locals of `ip_filter` that the rules look at. -/
structure Header where
  fragOffset : UInt16
  proto : UInt8
  srcIp : UInt32
  dstIp : UInt32
  srcPort : UInt16 := 0
  dstPort : UInt16 := 0
  flags : UInt8 := 0
deriving DecidableEq, Repr

/-- `ntohs` of two bytes. -/
def ntohs (high low : UInt8) : UInt16 := high.toUInt16 <<< 8 ||| low.toUInt16

/-- `ntohl` of four bytes. -/
def ntohl (a b c d : UInt8) : UInt32 :=
  a.toUInt32 <<< 24 ||| b.toUInt32 <<< 16 ||| c.toUInt32 <<< 8 ||| d.toUInt32

/-- A 16-bit read in the packet. -/
def readShort (buf : List UInt8) (offset : Nat) : Option UInt16 := do
  return ntohs (← buf[offset]?) (← buf[offset + 1]?)

/-- A 32-bit read in the packet. -/
def readLong (buf : List UInt8) (offset : Nat) : Option UInt32 := do
  return ntohl (← buf[offset]?) (← buf[offset + 1]?) (← buf[offset + 2]?) (← buf[offset + 3]?)

/-- TCP or UDP. -/
def hasPorts (proto : UInt8) : Bool := proto = ipprotoTcp ∨ proto = ipprotoUdp

/-- `ip_filter` up to its loop. The outer `none` is a read outside the packet, the inner one the
packet refused before any rule. -/
def readHeader (buf : List UInt8) : Option (Option Header) :=
  if buf.length < 20 then some none
  else do
    let first : UInt8 ← buf[0]?
    if first >>> 4 ≠ 4 then return none
    let header : Header :=
      { fragOffset := (← readShort buf 6) &&& 0x1fff
        proto := ← buf[9]?
        srcIp := ← readLong buf 12
        dstIp := ← readLong buf 16 }
    if header.fragOffset = 0 ∧ hasPorts header.proto then
      let l := (first &&& 0xf).toNat * 4
      if buf.length < l + 4 then return none
      let header := { header with
        srcPort := ← readShort buf l
        dstPort := ← readShort buf (l + 2) }
      if header.proto = ipprotoTcp then
        if buf.length < l + 14 then return none
        return some { header with flags := (← buf[l + 13]?) &&& 0x3f }
      return some header
    return some header

/-- The address lies outside the rule's side. -/
def Side.misses (side : Side) (ip : UInt32) : Bool :=
  side.wild ≠ inaddrBroadcast ∧ ip &&& ~~~side.wild ≠ side.ip &&& ~~~side.wild

/-- The port conditions of a rule's side fail. -/
def Ports.fails (ports : Ports) (port : UInt16) : Bool :=
  ports.op ≠ .none ∧ ¬ ipFilterPort ports port

/-- One pass of the loop of `ip_filter` ends with `continue`. -/
def Rule.skips (rule : Rule) (header : Header) : Bool :=
  if rule.proto ≠ ipprotoIp ∧ header.proto ≠ rule.proto then true
  else if rule.src.misses header.srcIp then true
  else if rule.dst.misses header.dstIp then true
  else if header.fragOffset ≠ 0 then rule.action = .deny ∧ rule.layer4
  else if rule.frag then true
  else if hasPorts header.proto then
    if rule.src.ports.fails header.srcPort then true
    else if rule.dst.ports.fails header.dstPort then true
    else header.proto = ipprotoTcp ∧ rule.tcp.op ≠ .none ∧ ¬ ipFilterFlag rule.tcp header.flags
  else false

/-- The loop of `ip_filter`: its verdict and the rules with the counter of the match raised.
`none` is a read outside the array. -/
def matchRules (header : Header) : List Rule → Option (Bool × List Rule)
  | [] => none
  | rule :: slots =>
      if rule.action = .none then some (false, rule :: slots)
      else if rule.skips header then
        (matchRules header slots).map fun (verdict, slots) => (verdict, rule :: slots)
      else some (rule.action = .permit, { rule with counter := rule.counter + 1 } :: slots)

/-- `ip_filter` -/
def ipFilter (buf : List UInt8) (slots : List Rule) : Option (Bool × List Rule) := do
  match ← readHeader buf with
  | none => return (false, slots)
  | some header => matchRules header slots

/-- A TCP flag that rules can name. -/
inductive TcpFlag
  | fin
  | syn
  | rst
  | psh
  | ack
  | urg
deriving DecidableEq, Repr

def TcpFlag.all : List TcpFlag := [.fin, .syn, .rst, .psh, .ack, .urg]

/-- `TCP_FLAG_*` -/
def TcpFlag.mask : TcpFlag → UInt8
  | .fin => tcpFlagFin
  | .syn => tcpFlagSyn
  | .rst => tcpFlagRst
  | .psh => tcpFlagPsh
  | .ack => tcpFlagAck
  | .urg => tcpFlagUrg

/-- The flag is in a byte of flags. -/
def Has (flags : UInt8) (flag : TcpFlag) : Prop := flags &&& flag.mask ≠ 0

instance (flags : UInt8) (flag : TcpFlag) : Decidable (Has flags flag) :=
  inferInstanceAs (Decidable (_ ≠ _))

/-- The address agrees with the rule's side in every bit that is not wild. -/
def Side.Covers (side : Side) (ip : UInt32) : Prop := ip &&& ~~~side.wild = side.ip &&& ~~~side.wild

/-- What a port condition says. -/
def Ports.Allow (ports : Ports) (port : UInt16) : Prop :=
  match ports.op with
  | .none => True
  | .eq => port = ports.port
  | .neq => port ≠ ports.port
  | .gt => ports.port < port
  | .lt => port < ports.port
  | .range => ports.port ≤ port ∧ port ≤ ports.port2

/-- What a flag condition says. -/
def Flags.Allow (tcp : Flags) (flags : UInt8) : Prop :=
  match tcp.op with
  | .none => True
  | .any => ∃ flag ∈ TcpFlag.all,
      Has tcp.sflags flag ∧ Has flags flag ∨ Has tcp.cflags flag ∧ ¬ Has flags flag
  | .all => ∀ flag ∈ TcpFlag.all,
      (Has tcp.sflags flag → Has flags flag) ∧ (Has tcp.cflags flag → ¬ Has flags flag)
  | .est => (Has flags .ack ∨ Has flags .rst) ∧ ¬ Has flags .syn

/-- **When a rule matches a packet.** Ports and flags are known of an initial fragment only; on
the others a rule that asks for them lets through what it would permit and denies nothing. -/
def Rule.Matches (rule : Rule) (header : Header) : Prop :=
  (rule.proto = ipprotoIp ∨ rule.proto = header.proto) ∧
    rule.src.Covers header.srcIp ∧ rule.dst.Covers header.dstIp ∧
    if header.fragOffset = 0 then
      rule.frag = false ∧ rule.src.ports.Allow header.srcPort ∧
        rule.dst.ports.Allow header.dstPort ∧ rule.tcp.Allow header.flags
    else rule.layer4 = true → rule.action = .permit

instance (side : Side) (ip : UInt32) : Decidable (side.Covers ip) :=
  inferInstanceAs (Decidable (_ = _))

instance (ports : Ports) (port : UInt16) : Decidable (ports.Allow port) :=
  match ports with
  | ⟨.none, _, _⟩ => .isTrue trivial
  | ⟨.eq, p, _⟩ => inferInstanceAs (Decidable (port = p))
  | ⟨.neq, p, _⟩ => inferInstanceAs (Decidable (port ≠ p))
  | ⟨.gt, p, _⟩ => inferInstanceAs (Decidable (p < port))
  | ⟨.lt, p, _⟩ => inferInstanceAs (Decidable (port < p))
  | ⟨.range, p, q⟩ => inferInstanceAs (Decidable (p ≤ port ∧ port ≤ q))

instance (tcp : Flags) (flags : UInt8) : Decidable (tcp.Allow flags) :=
  match tcp with
  | ⟨.none, _, _⟩ => .isTrue trivial
  | ⟨.any, s, c⟩ => inferInstanceAs (Decidable (∃ flag ∈ TcpFlag.all,
      Has s flag ∧ Has flags flag ∨ Has c flag ∧ ¬ Has flags flag))
  | ⟨.all, s, c⟩ => inferInstanceAs (Decidable (∀ flag ∈ TcpFlag.all,
      (Has s flag → Has flags flag) ∧ (Has c flag → ¬ Has flags flag)))
  | ⟨.est, _, _⟩ =>
      inferInstanceAs (Decidable ((Has flags .ack ∨ Has flags .rst) ∧ ¬ Has flags .syn))

instance (rule : Rule) (header : Header) : Decidable (rule.Matches header) :=
  inferInstanceAs (Decidable (_ ∧ _))

def byteAt (buf : List UInt8) (offset : Nat) : UInt8 := buf.getD offset 0

def shortAt (buf : List UInt8) (offset : Nat) : UInt16 :=
  ntohs (byteAt buf offset) (byteAt buf (offset + 1))

def longAt (buf : List UInt8) (offset : Nat) : UInt32 :=
  ntohl (byteAt buf offset) (byteAt buf (offset + 1)) (byteAt buf (offset + 2))
    (byteAt buf (offset + 3))

/-- Where the IP header says that it ends. -/
def headerEnd (buf : List UInt8) : Nat := (byteAt buf 0 &&& 0xf).toNat * 4

/-- An initial fragment of TCP or UDP. -/
def StartsLayer4 (buf : List UInt8) : Prop :=
  shortAt buf 6 &&& 0x1fff = 0 ∧ hasPorts (byteAt buf 9)

instance (buf : List UInt8) : Decidable (StartsLayer4 buf) := inferInstanceAs (Decidable (_ ∧ _))

/-- An IPv4 packet with all the bytes that rules look at. -/
def Complete (buf : List UInt8) : Prop :=
  20 ≤ buf.length ∧ byteAt buf 0 >>> 4 = 4 ∧
    (StartsLayer4 buf →
      headerEnd buf + (if byteAt buf 9 = ipprotoTcp then 14 else 4) ≤ buf.length)

instance (buf : List UInt8) : Decidable (Complete buf) := inferInstanceAs (Decidable (_ ∧ _))

/-- What rules look at in a packet. -/
def headerOf (buf : List UInt8) : Header where
  fragOffset := shortAt buf 6 &&& 0x1fff
  proto := byteAt buf 9
  srcIp := longAt buf 12
  dstIp := longAt buf 16
  srcPort := if StartsLayer4 buf then shortAt buf (headerEnd buf) else 0
  dstPort := if StartsLayer4 buf then shortAt buf (headerEnd buf + 2) else 0
  flags :=
    if StartsLayer4 buf ∧ byteAt buf 9 = ipprotoTcp then byteAt buf (headerEnd buf + 13) &&& 0x3f
    else 0

/-- **What a list of rules lets through.** -/
def Permits (rules : List Rule) (buf : List UInt8) : Prop :=
  Complete buf ∧
    ∃ rule, rules.find? (fun rule => rule.Matches (headerOf buf)) = some rule ∧
      rule.action = .permit

variable {flags mask : UInt8} {rule : Rule} {entries slots : List Rule} (buf : List UInt8)
  (offset : Nat) (flag : TcpFlag)

theorem getElem?_byteAt (inside : offset < buf.length) :
    buf[offset]? = some (byteAt buf offset) := by
  simp [byteAt, inside]

theorem readShort_shortAt (inside : offset + 1 < buf.length) :
    readShort buf offset = some (shortAt buf offset) := by
  rw [readShort, getElem?_byteAt buf offset (by omega), getElem?_byteAt buf _ inside]
  rfl

theorem readLong_longAt (inside : offset + 3 < buf.length) :
    readLong buf offset = some (longAt buf offset) := by
  rw [readLong, getElem?_byteAt buf offset (by omega),
    getElem?_byteAt buf (offset + 1) (by omega),
    getElem?_byteAt buf (offset + 2) (by omega), getElem?_byteAt buf _ inside]
  rfl

/-- **The matcher reads inside the packet**, and sees what is there. -/
theorem readHeader_eq :
    readHeader buf = some (if Complete buf then some (headerOf buf) else none) := by
  by_cases long : buf.length < 20
  · simp [readHeader, Complete, long, show ¬ 20 ≤ buf.length by omega]
  have version := getElem?_byteAt buf 0 (by omega)
  have frag := readShort_shortAt buf 6 (by omega)
  have proto := getElem?_byteAt buf 9 (by omega)
  have src := readLong_longAt buf 12 (by omega)
  have dst := readLong_longAt buf 16 (by omega)
  simp only [readHeader, if_neg long, version, frag, proto, src, dst, Option.bind_eq_bind,
    Option.bind_some, Option.pure_def]
  by_cases ipv4 : byteAt buf 0 >>> 4 = 4
  swap
  · simp [Complete, ipv4]
  rw [if_neg (by simpa using ipv4)]
  have opens : (shortAt buf 6 &&& 0x1fff = 0 ∧ hasPorts (byteAt buf 9) = true) ↔
      StartsLayer4 buf := Iff.rfl
  by_cases starts : StartsLayer4 buf
  swap
  · rw [if_neg (opens.not.mpr starts), if_pos ⟨by omega, ipv4, fun h => absurd h starts⟩]
    simp [headerOf, starts]
  rw [if_pos (opens.mpr starts)]
  by_cases ports : buf.length < headerEnd buf + 4
  · have short : ¬ Complete buf := fun complete => by
      have := complete.2.2 starts
      split at this <;> omega
    rw [if_neg short]
    exact if_pos ports
  have srcPort := readShort_shortAt buf (headerEnd buf) (by omega)
  have dstPort := readShort_shortAt buf (headerEnd buf + 2) (by omega)
  rw [headerEnd] at ports srcPort dstPort
  rw [if_neg ports, srcPort, dstPort]
  simp only [Option.bind_some]
  by_cases tcp : byteAt buf 9 = ipprotoTcp
  swap
  · rw [if_neg tcp, if_pos ⟨by omega, ipv4, fun _ => by rw [if_neg tcp, headerEnd]; omega⟩]
    simp [headerOf, starts, tcp, headerEnd]
  rw [if_pos tcp]
  by_cases flags : buf.length < headerEnd buf + 14
  · have short : ¬ Complete buf := fun complete => by
      have := complete.2.2 starts
      rw [if_pos tcp] at this
      omega
    rw [if_neg short]
    exact if_pos flags
  have seen := getElem?_byteAt buf (headerEnd buf + 13) (by omega)
  have complete : Complete buf := ⟨by omega, ipv4, fun _ => by rw [if_pos tcp]; omega⟩
  rw [headerEnd] at flags seen
  rw [if_neg flags, if_pos complete, seen]
  simp [headerOf, starts, tcp, headerEnd]

/-- The place of a flag in its byte. -/
def TcpFlag.bit : TcpFlag → Nat
  | .fin => 0
  | .syn => 1
  | .rst => 2
  | .psh => 3
  | .ack => 4
  | .urg => 5

theorem TcpFlag.mem_all : flag ∈ TcpFlag.all := by
  cases flag <;> simp [TcpFlag.all]

theorem exists_flag {i : Nat} (small : i < 6) : ∃ flag : TcpFlag, flag.bit = i :=
  match i, small with
  | 0, _ => ⟨.fin, rfl⟩
  | 1, _ => ⟨.syn, rfl⟩
  | 2, _ => ⟨.rst, rfl⟩
  | 3, _ => ⟨.psh, rfl⟩
  | 4, _ => ⟨.ack, rfl⟩
  | 5, _ => ⟨.urg, rfl⟩

theorem TcpFlag.bit_lt : flag.bit < 6 := by
  cases flag <;> simp [TcpFlag.bit]

theorem TcpFlag.mask_toNat : flag.mask.toNat = 2 ^ flag.bit := by
  cases flag <;> rfl

theorem has_iff {flag : TcpFlag} : Has flags flag ↔ flags.toNat.testBit flag.bit := by
  rw [Has, Ne, ← UInt8.toNat_inj, UInt8.toNat_and, flag.mask_toNat, Nat.and_two_pow]
  cases flags.toNat.testBit flag.bit <;> simp [Nat.pow_eq_zero]

theorem has_and {flag : TcpFlag} : Has (flags &&& mask) flag ↔ Has flags flag ∧ Has mask flag := by
  simp only [has_iff, UInt8.toNat_and, Nat.testBit_and, Bool.and_eq_true]

theorem has_not {flag : TcpFlag} : Has (~~~flags) flag ↔ ¬ Has flags flag := by
  have bound : flags.toNat < 2 ^ 8 := flags.toNat_lt
  have not : (~~~flags).toNat = 2 ^ 8 - (flags.toNat + 1) := by
    rw [UInt8.toNat_not, UInt8.size]
    omega
  have small : flag.bit < 8 := by have := flag.bit_lt; omega
  rw [has_iff, has_iff, not, Nat.testBit_two_pow_sub_succ bound]
  simp [small]

theorem named_ext {first second : UInt8} (one : Named first) (two : Named second)
    (same : ∀ flag, Has first flag ↔ Has second flag) : first = second := by
  refine UInt8.toNat_inj.mp (Nat.eq_of_testBit_eq fun i => ?_)
  by_cases small : i < 6
  · obtain ⟨flag, rfl⟩ := exists_flag small
    exact Bool.eq_iff_iff.mpr (by rw [← has_iff, ← has_iff, same])
  · rw [Nat.testBit_lt_two_pow (Nat.lt_of_lt_of_le one (Nat.pow_le_pow_right (by simp) (by omega))),
      Nat.testBit_lt_two_pow (Nat.lt_of_lt_of_le two (Nat.pow_le_pow_right (by simp) (by omega)))]

theorem Named.and (named : Named mask) (flags : UInt8) : Named (flags &&& mask) := by
  rw [Named, UInt8.toNat_and]
  exact Nat.and_lt_two_pow _ named

theorem and_ne_zero_iff {flags mask : UInt8} (named : Named mask) :
    flags &&& mask ≠ 0 ↔ ∃ flag, Has mask flag ∧ Has flags flag := by
  constructor
  · intro some
    by_contra none
    refine some (named_ext (named.and flags) named_zero fun flag => ?_)
    rw [has_and]
    have absent : ¬ Has 0 flag := by cases flag <;> decide
    exact iff_of_false (fun both => none ⟨flag, both.2, both.1⟩) absent
  · rintro ⟨flag, asked, given⟩ zero
    have both := has_and.mpr ⟨given, asked⟩
    rw [zero] at both
    cases flag <;> exact absurd both (by decide)

theorem and_eq_iff (named : Named mask) :
    flags &&& mask = mask ↔ ∀ flag, Has mask flag → Has flags flag := by
  constructor
  · intro eq flag asked
    rw [← eq] at asked
    exact (has_and.mp asked).1
  · intro all
    refine named_ext (named.and flags) named fun flag => ?_
    rw [has_and]
    exact ⟨And.right, fun asked => ⟨all flag asked, asked⟩⟩

theorem ipFilterFlag_iff {tcp : Flags} (formed : tcp.Formed) (asks : tcp.op ≠ .none)
    (flags : UInt8) : ipFilterFlag tcp flags = true ↔ tcp.Allow flags := by
  obtain ⟨op, sflags, cflags⟩ := tcp
  cases op with
  | none => exact absurd rfl asks
  | any =>
      simp only [ipFilterFlag, Flags.Allow, decide_eq_true_eq, and_ne_zero_iff formed.1,
        and_ne_zero_iff formed.2.1, has_not, TcpFlag.mem_all, true_and]
      exact exists_or.symm
  | all =>
      simp only [ipFilterFlag, Flags.Allow, decide_eq_true_eq, and_eq_iff formed.1,
        and_eq_iff formed.2.1, has_not, TcpFlag.mem_all, true_implies]
      exact forall_and.symm
  | est =>
      have two (flag : TcpFlag) :
          Has (tcpFlagAck ||| tcpFlagRst) flag ↔ flag = .ack ∨ flag = .rst := by
        cases flag <;> decide
      have one (flag : TcpFlag) : Has tcpFlagSyn flag ↔ flag = .syn := by cases flag <;> decide
      simp only [ipFilterFlag, Flags.Allow, decide_eq_true_eq,
        @and_ne_zero_iff _ (tcpFlagAck ||| tcpFlagRst) (by decide),
        @and_ne_zero_iff _ tcpFlagSyn (by decide), two, one, has_not]
      simp

theorem side_misses_iff {side : Side} {ip : UInt32} : side.misses ip = false ↔ side.Covers ip := by
  simp only [Side.misses, Side.Covers, decide_eq_false_iff_not, not_and, not_not]
  refine ⟨fun agrees => ?_, fun agrees _ => agrees⟩
  by_cases all : side.wild = inaddrBroadcast
  · have none : ~~~inaddrBroadcast = 0 := by decide
    rw [all, none, UInt32.and_zero, UInt32.and_zero]
  · exact agrees all

theorem ports_fails_iff {ports : Ports} {port : UInt16} :
    ports.fails port = false ↔ ports.Allow port := by
  obtain ⟨op, first, second⟩ := ports
  cases op <;> simp [Ports.fails, ipFilterPort, Ports.Allow]

theorem Rule.Formed.noPorts (formed : rule.Formed) {proto : UInt8}
    (same : rule.proto = ipprotoIp ∨ rule.proto = proto) (none : hasPorts proto = false) :
    rule.src.ports = {} ∧ rule.dst.ports = {} ∧ rule.tcp.op = .none := by
  simp only [hasPorts, decide_eq_false_iff_not, not_or] at none
  have ip : rule.proto = ipprotoIp := by
    rcases formed.proto with ip | tcp | udp
    · exact ip
    · exact same.elim id fun same => absurd (same.symm.trans tcp) none.1
    · exact same.elim id fun same => absurd (same.symm.trans udp) none.2
  refine ⟨(formed.ip ip).1, (formed.ip ip).2, ?_⟩
  by_contra asks
  exact absurd (ip.symm.trans (formed.flags asks)) (by decide)

theorem flags_test_iff (formed : rule.Formed) {header : Header}
    (same : rule.proto = ipprotoIp ∨ rule.proto = header.proto) :
    decide (header.proto = ipprotoTcp ∧ rule.tcp.op ≠ .none ∧
        ¬ ipFilterFlag rule.tcp header.flags) = false ↔ rule.tcp.Allow header.flags := by
  by_cases asks : rule.tcp.op = .none
  · simp [asks, Flags.Allow]
  have tcp : header.proto = ipprotoTcp := by
    have tcp := formed.flags asks
    exact same.elim (fun ip => absurd (ip.symm.trans tcp) (by decide))
      fun same => same.symm.trans tcp
  rw [← ipFilterFlag_iff formed.tcp asks]
  simp [tcp, asks]

/-- **The loop passes over a rule exactly when it does not match.** -/
theorem skips_iff (formed : rule.Formed) (header : Header) :
    rule.skips header = false ↔ rule.Matches header := by
  unfold Rule.skips Rule.Matches
  by_cases proto : rule.proto ≠ ipprotoIp ∧ header.proto ≠ rule.proto
  · rw [if_pos proto]
    exact iff_of_false (by simp) fun ⟨same, _⟩ =>
      same.elim proto.1 fun same => proto.2 same.symm
  rw [if_neg proto]
  have same : rule.proto = ipprotoIp ∨ rule.proto = header.proto := by
    by_contra other
    exact proto ⟨fun h => other (.inl h), fun h => other (.inr h.symm)⟩
  rw [← side_misses_iff, ← side_misses_iff]
  by_cases src : rule.src.misses header.srcIp = true
  · simp [src]
  by_cases dst : rule.dst.misses header.dstIp = true
  · simp [src, dst]
  rw [if_neg src, if_neg dst]
  simp only [same, Bool.eq_false_of_not_eq_true src, Bool.eq_false_of_not_eq_true dst, true_and]
  by_cases later : header.fragOffset ≠ 0
  · rw [if_pos later, if_neg later]
    have permits : rule.action ≠ .deny ↔ rule.action = .permit := by
      cases action : rule.action with
      | none => exact absurd action formed.acts
      | deny | permit => simp
    simp only [decide_eq_false_iff_not, not_and, ← permits]
    exact ⟨fun h layer4 deny => h deny layer4, fun h deny layer4 => h layer4 deny⟩
  rw [if_neg later, if_pos (not_not.mp later), ← ports_fails_iff, ← ports_fails_iff,
    ← flags_test_iff formed same]
  by_cases frag : rule.frag = true
  · simp [frag]
  rw [if_neg frag]
  by_cases ports : hasPorts header.proto = true
  · rw [if_pos ports]
    by_cases srcPort : rule.src.ports.fails header.srcPort = true
    · simp [srcPort]
    by_cases dstPort : rule.dst.ports.fails header.dstPort = true
    · simp [srcPort, dstPort]
    simp [srcPort, dstPort, frag]
  · rw [if_neg ports]
    have ⟨noSrc, noDst, noFlags⟩ := formed.noPorts same (Bool.eq_false_of_not_eq_true ports)
    simp [frag, noSrc, noDst, noFlags, Ports.fails]

theorem key_skips (rule : Rule) (header : Header) : rule.key.skips header = rule.skips header := rfl

/-- The loop finds the first rule that matches, and changes counters only. -/
theorem matchRules_find (header : Header)
    (formed : ∀ entry ∈ entries, entry.Formed) {free : Nat} (ends : 0 < free)
    (keys : slots.map Rule.key = entries ++ List.replicate free ({} : Rule)) :
    ∃ slots' verdict, matchRules header slots = some (verdict, slots') ∧
      slots'.map Rule.key = slots.map Rule.key ∧
      (verdict = true ↔ ∃ rule, entries.find? (fun rule => rule.Matches header) = some rule ∧
        rule.action = .permit) := by
  induction entries generalizing slots with
  | nil =>
      obtain ⟨free, rfl⟩ : ∃ more, free = more + 1 := ⟨free - 1, by omega⟩
      cases slots with
      | nil => simp at keys
      | cons slot slots =>
          simp only [List.map_cons, List.nil_append, List.replicate_succ, List.cons.injEq] at keys
          have empty : slot.action = .none := congrArg Rule.action keys.1
          exact ⟨slot :: slots, false, by rw [matchRules, if_pos empty], rfl, by simp⟩
  | cons entry entries ih =>
      cases slots with
      | nil => simp at keys
      | cons slot slots =>
          simp only [List.map_cons, List.cons_append, List.cons.injEq] at keys
          have action : slot.action = entry.action := by rw [← keys.1]; rfl
          have skips : slot.skips header = entry.skips header := by
            rw [← keys.1, key_skips]
          have used : slot.action ≠ .none := action ▸ (formed entry (by simp)).acts
          have meaning := skips_iff (formed entry (by simp)) header
          rw [matchRules, if_neg used, skips]
          by_cases passed : entry.skips header = true
          · obtain ⟨slots', verdict, eq, same, found⟩ :=
              ih (fun e mem => formed e (by simp [mem])) keys.2
            have other : ¬ entry.Matches header := by
              rw [← meaning]
              simpa using passed
            refine ⟨slot :: slots', verdict, by rw [if_pos passed, eq]; rfl, by simp [same], ?_⟩
            rw [found, List.find?_cons_of_neg (by simpa using other)]
          · have hit : entry.Matches header := meaning.mp (by simpa using passed)
            refine ⟨_, _, if_neg passed, by simp [Rule.key], ?_⟩
            rw [List.find?_cons_of_pos (by simpa using hit), action]
            simp

theorem ipFilter_stores (stores : Stores slots entries) (buf : List UInt8) :
    ∃ slots' verdict, ipFilter buf slots = some (verdict, slots') ∧ Stores slots' entries ∧
      (verdict = true ↔ Permits entries buf) := by
  by_cases complete : Complete buf
  · have free : 0 < maxFilterRules - entries.length := by have := stores.room; omega
    obtain ⟨slots', verdict, eq, same, found⟩ :=
      matchRules_find (headerOf buf) stores.formed free stores.keys
    refine ⟨slots', verdict, ?_, ⟨same.trans stores.keys, stores.room, stores.formed⟩, ?_⟩
    · simp [ipFilter, readHeader_eq, complete, eq]
    · rw [found, Permits]
      simp [complete]
  · refine ⟨slots, false, ?_, stores, by simp [Permits, complete]⟩
    simp [ipFilter, readHeader_eq, complete]

/-- What happens to a filter: a rule command of its configuration mode, or a packet. -/
inductive Event
  | enters (command : Word) (argv : List Word)
  | passes (buf : List UInt8)

/-- One event on an extended filter; `none` is a read outside the packet or the array. -/
def step (helpRequested : List Word → Bool) (slots : List Rule) : Event → Option (List Rule)
  | .enters command argv => (cmdIpAccessListRule helpRequested true slots command argv).map Prod.fst
  | .passes buf => (ipFilter buf slots).map Prod.snd

/-- The events on a filter that `memset` cleared. -/
def run (helpRequested : List Word → Bool) (events : List Event) : Option (List Rule) :=
  events.foldlM (step helpRequested) (List.replicate maxFilterRules {})

def Event.entered? (helpRequested : List Word → Bool) : Event → Option Rule
  | .enters command argv => enteredRule? helpRequested true command argv
  | .passes _ => none

/-- The distinct rules in order of first entry, as many as a filter has room for. -/
def firstEntries (helpRequested : List Word → Bool) (events : List Event) : List Rule :=
  (events.filterMap (Event.entered? helpRequested)).eraseDups.take (maxFilterRules - 1)

theorem step_stores (helpRequested : List Word → Bool)
    (stores : Stores slots entries) (event : Event) :
    ∃ slots', step helpRequested slots event = some slots' ∧
      Stores slots' ((event.entered? helpRequested).toList.foldl
        (Foundation.RuleBase.enter (maxFilterRules - 1)) entries) := by
  cases event with
  | passes buf =>
      obtain ⟨slots', verdict, eq, stores, -⟩ := ipFilter_stores stores buf
      exact ⟨slots', by simp [step, eq], stores⟩
  | enters command argv =>
      obtain ⟨slots', message, eq, stores⟩ :=
        stores.cmdIpAccessListRule helpRequested true command argv
      exact ⟨slots', by simp [step, eq], stores⟩

theorem run_stores (helpRequested : List Word → Bool) (events : List Event) :
    ∃ slots, run helpRequested events = some slots ∧
      Stores slots (firstEntries helpRequested events) := by
  unfold firstEntries
  rw [← Foundation.RuleBase.foldl_enter]
  induction events using List.reverseRecOn with
  | nil => exact ⟨_, rfl, stores_nil⟩
  | append_singleton events event ih =>
      obtain ⟨slots, eq, stores⟩ := ih
      obtain ⟨slots', step_eq, stores'⟩ := step_stores helpRequested stores event
      refine ⟨slots', ?_, ?_⟩
      · rw [run, List.foldlM_append, ← run, eq]
        simp [step_eq]
      · rw [List.filterMap_append, List.foldl_append]
        cases entered : event.entered? helpRequested with
        | none | some rule => simpa [entered] using stores'

/-- **Extended access lists mean first match.** Whatever commands entered and packets passed,
the filter reads inside the packet and inside its rules, and lets a packet through when the
first of its rules that matches, in order of first entry, permits it. -/
theorem ipFilter_firstMatch (helpRequested : List Word → Bool) (events : List Event)
    (buf : List UInt8) :
    ∃ slots slots' verdict, run helpRequested events = some slots ∧
      ipFilter buf slots = some (verdict, slots') ∧
      (verdict = true ↔ Permits (firstEntries helpRequested events) buf) := by
  obtain ⟨slots, ran, stores⟩ := run_stores helpRequested events
  obtain ⟨slots', verdict, eq, -, permits⟩ := ipFilter_stores stores buf
  exact ⟨slots, slots', verdict, ran, eq, permits⟩

end L2tpns.AccessList
