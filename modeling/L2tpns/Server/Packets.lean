import Mathlib.Algebra.Group.Int.Defs
import Mathlib.Algebra.Group.Nat.Defs
import Mathlib.Data.List.Basic

/-! # IPv4 packets

Packets are lists of bytes; numbers of several bytes stand in them with the first byte the
highest. A packet is filtered by the first rule that it matches, and it is dropped if there
is none. Of a TCP packet that opens a connection the greatest segment size is lowered, which
changes no address.
-/

namespace L2tpns.Server

def byteAt (p : List UInt8) (i : Nat) : Nat := (p.getD i 0).toNat

/-- A number of 16 bits. -/
def half (p : List UInt8) (i : Nat) : Nat := byteAt p i * 2 ^ 8 + byteAt p (i + 1)

/-- A number of 32 bits. -/
def word (p : List UInt8) (i : Nat) : UInt32 :=
  UInt32.ofNat (half p i * 2 ^ 16 + half p (i + 2))

def setHalf (p : List UInt8) (i value : Nat) : List UInt8 :=
  (p.set i (UInt8.ofNat (value / 2 ^ 8))).set (i + 1) (UInt8.ofNat (value % 2 ^ 8))

/-- `IPPROTO_TCP` -/
def ipprotoTcp : Nat := 6

/-- `IPPROTO_UDP` -/
def ipprotoUdp : Nat := 17

/-- `TCP_FLAG_SYN` -/
def tcpFlagSyn : UInt8 := 0x02

/-- `TCP_FLAG_RST` -/
def tcpFlagRst : UInt8 := 0x04

/-- `TCP_FLAG_ACK` -/
def tcpFlagAck : UInt8 := 0x10

def fragOffset (p : List UInt8) : Nat := half p 6 % 2 ^ 13

def headerLength (p : List UInt8) : Nat := byteAt p 0 % 16 * 4

inductive PortOp where
  | eq
  | neq
  | gt
  | lt
  | range
deriving DecidableEq, Repr

structure IpFilterPort where
  op : PortOp
  port : Nat
  port2 : Nat
deriving DecidableEq, Repr

inductive FlagOp where
  | any
  | all
  | est
deriving DecidableEq, Repr

/-- A rule of a filter, which permits or denies; without ports or flags it is for all. -/
structure IpFilterRule where
  permits : Bool
  proto : Nat
  srcIp : UInt32
  srcWild : UInt32
  srcPorts : Option IpFilterPort
  dstIp : UInt32
  dstWild : UInt32
  dstPorts : Option IpFilterPort
  frag : Bool
  tcpFlagOp : Option FlagOp
  tcpSflags : UInt8
  tcpCflags : UInt8
deriving DecidableEq, Repr

def ipFilterPort (p : IpFilterPort) (port : Nat) : Bool :=
  match p.op with
  | .eq => port = p.port
  | .neq => port ≠ p.port
  | .gt => p.port < port
  | .lt => port < p.port
  | .range => p.port ≤ port ∧ port ≤ p.port2

def ipFilterFlag (op : FlagOp) (sflags cflags flags : UInt8) : Bool :=
  match op with
  | .any => flags &&& sflags ≠ 0 ∨ ~~~flags &&& cflags ≠ 0
  | .all => flags &&& sflags = sflags ∧ ~~~flags &&& cflags = cflags
  | .est => flags &&& (tcpFlagAck ||| tcpFlagRst) ≠ 0 ∧ ~~~flags &&& tcpFlagSyn ≠ 0

/-- What of a packet the rules look at. -/
structure Flow where
  fragOffset : Nat
  proto : Nat
  srcIp : UInt32
  dstIp : UInt32
  srcPort : Nat
  dstPort : Nat
  flags : UInt8
deriving DecidableEq, Repr

/-- The ports and flags are those of the first fragment of a TCP or UDP packet. There is no
flow if the packet is too short for them. -/
def flowOf (buf : List UInt8) : Option Flow :=
  let frag := fragOffset buf
  let proto := byteAt buf 9
  let flow : Flow := ⟨frag, proto, word buf 12, word buf 16, 0, 0, 0⟩
  if frag = 0 ∧ (proto = ipprotoTcp ∨ proto = ipprotoUdp) then
    let l := headerLength buf
    if buf.length < l + 4 then none
    else
      let ports := { flow with srcPort := half buf l, dstPort := half buf (l + 2) }
      if proto = ipprotoTcp then
        if buf.length < l + 14 then none
        else some { ports with flags := buf.getD (l + 13) 0 &&& 0x3f }
      else some ports
  else some flow

namespace IpFilterRule

variable (rule : IpFilterRule)

/-- The ports and flags of the first fragment match. -/
def matchesPorts (flow : Flow) : Bool :=
  (rule.srcPorts.all fun ports => ipFilterPort ports flow.srcPort) ∧
    (rule.dstPorts.all fun ports => ipFilterPort ports flow.dstPort) ∧
    (flow.proto ≠ ipprotoTcp ∨
      (rule.tcpFlagOp.all fun op => ipFilterFlag op rule.tcpSflags rule.tcpCflags flow.flags))

/-- A flow matches a rule. Rules that deny by ports or flags are skipped for fragments that
are not the first. -/
def applies (flow : Flow) : Bool :=
  (rule.proto = 0 ∨ flow.proto = rule.proto) ∧
    (rule.srcWild = 0xffffffff ∨ flow.srcIp &&& ~~~rule.srcWild = rule.srcIp &&& ~~~rule.srcWild) ∧
    (rule.dstWild = 0xffffffff ∨ flow.dstIp &&& ~~~rule.dstWild = rule.dstIp &&& ~~~rule.dstWild) ∧
    if flow.fragOffset ≠ 0 then
      rule.permits ∨ rule.srcPorts = none ∧ rule.dstPorts = none ∧ rule.tcpFlagOp = none
    else
      ¬ rule.frag ∧
        (flow.proto = ipprotoTcp ∨ flow.proto = ipprotoUdp → rule.matchesPorts flow)

end IpFilterRule

/-- Whether a filter lets a packet through. -/
def ipFilter (rules : List IpFilterRule) (buf : List UInt8) : Bool :=
  if buf.length < 20 then false
  else if byteAt buf 0 / 16 ≠ 4 then false
  else
    match flowOf buf with
    | none => false
    | some flow => ((rules.find? (·.applies flow)).map (·.permits)).getD false

/-- Look for the option with the size among `fuel` bytes of options. -/
def findMss (buf : List UInt8) (data : Nat) : Nat → Nat → Option Nat
  | 0, _ => none
  | fuel + 1, opts =>
      if data ≤ opts then none
      else if byteAt buf opts = 2 ∧ byteAt buf (opts + 1) = 4 then
        if data < opts + 2 + 2 then none else some (opts + 2)
      else if byteAt buf opts = 0 then none
      else if byteAt buf opts = 1 ∨ byteAt buf (opts + 1) = 0 then findMss buf data fuel (opts + 1)
      else findMss buf data fuel (opts + byteAt buf (opts + 1))

/-- Lower the size in a TCP packet without other flags than SYN and ACK, and mend the
checksum. -/
def adjustTcpMss (limit : Nat) (buf : List UInt8) (tcp : Nat) : List UInt8 :=
  let d := byteAt buf (tcp + 12) / 16 * 4
  if buf.getD (tcp + 13) 0 &&& 0x3f &&& ~~~(tcpFlagSyn ||| tcpFlagAck) ≠ 0 then buf
  else if buf.length < tcp + d then buf
  else
    match findMss buf (tcp + d) d (tcp + 20) with
    | none => buf
    | some mss =>
        let orig := half buf mss
        if orig ≤ limit then buf
        else
          let lowered := setHalf buf mss limit
          let sum := orig + (2 ^ 16 - 1 - limit) + half lowered (tcp + 16)
          let folded := sum % 2 ^ 16 + sum / 2 ^ 16
          setHalf lowered (tcp + 16) ((folded + folded / 2 ^ 16) % 2 ^ 16)

end L2tpns.Server
