import L2tpns.Avp.Process
import L2tpns.Ppp.Opening

/-! # Packets of the PPP control protocols

A packet is what can be read from its code on; what its header and its options say
about lengths is checked where the source checks it. A reply to a configuration
request is collected option by option.
-/

namespace L2tpns.Server

open Avp (Memory ntohs ntohl readBytes writeBytes)

def configAck : UInt8 := 2
def configNak : UInt8 := 3
def configRej : UInt8 := 4
def terminateReq : UInt8 := 5
def terminateAck : UInt8 := 6
def codeRej : UInt8 := 7
def protocolRej : UInt8 := 8
def echoReq : UInt8 := 9
def echoReply : UInt8 := 10

def pppIpv6 : Nat := 0x0057

/-- `MINMTU`. -/
def minMtu : Nat := 576

/-- Bytes that `makeppp` writes before a packet: the header of L2TP and the protocol,
shorter if the peer accepts that, or the headers of PPPoE. -/
def pppHeader (st : State) (s t proto : Nat) : Nat :=
  let flags := (st.session s).flags
  if t = tunnelIdPppoe then 22
  else
    6 + (if proto = pppLcp ∨ flags &&& 2 = 0 then 2 else 0) +
      (if proto < 0x100 ∧ flags &&& 1 ≠ 0 then 1 else 2)

/-- Whether `makeppp` has room for a packet of `l` bytes. -/
def pppFits (st : State) (s t proto l : Nat) : Bool := pppHeader st s t proto + l ≤ maxEther

/-- Send the received packet back with another code, if there is room for it. -/
def sendBack (st : State) (s t proto : Nat) (code : UInt8) (memory : Memory) (l : Nat) : State :=
  if pppFits st s t proto l then
    st.emit (.ppp s proto (readBytes (writeBytes memory 0 [code]) 0 l))
  else st

/-- A reply without options. -/
def sendTerminateAck (st : State) (s proto : Nat) (memory : Memory) : State :=
  st.emit (.ppp s proto (controlPacket terminateAck (memory 1).toNat []))

/-- `ppp_code_rej`: return a packet with an unexpected code, cut to the peer's MRU. -/
def pppCodeRej (st : State) (s proto : Nat) (memory : Memory) (l : Nat) : State :=
  let mru := min (max (st.session s).mru minMtu) maxEther
  let l := min ((l + 4) % 2 ^ 16) mru
  let ident := ((st.sessLocal s).lcpIdent + 1) % 2 ^ 8
  let counted := st.setLocal s fun own => { own with lcpIdent := ident }
  counted.emit (.ppp s proto
    ([codeRej, UInt8.ofNat ident] ++ bytes16 l ++ readBytes memory 0 (l - 4)))

/-- Send a router advertisement; what is in it is not modelled. -/
def sendIpv6Ra (st : State) (s : Nat) : State := st.emit (.ppp s pppIpv6 [])

/-- Where the options are, from `o` on with `x` bytes left. The walk ends at an option
of length 0 or type 0, or one that does not fit. -/
def optionOffsets (memory : Memory) : Nat → Nat → Nat → List Nat
  | 0, _, _ => []
  | fuel + 1, o, x =>
      let length := (memory (o + 1)).toNat
      if x ≤ 2 then []
      else if length = 0 ∨ memory o = 0 ∨ x < length then []
      else o :: optionOffsets memory fuel (o + length) (x - length)

/-- The options of a packet of `l` bytes. -/
def optionsOf (memory : Memory) (l : Nat) : List Nat := optionOffsets memory (l - 4) 4 (l - 4)

/-- A reply with the options refused so far. -/
structure Reply where
  code : UInt8
  options : List UInt8
deriving DecidableEq, Repr

/-- The reply that is collected, if any. When an option did not fit, the pointer to the
end of the reply is null. -/
structure Answer where
  response : Option Reply
  lost : Bool
deriving DecidableEq, Repr

def Answer.none : Answer := ⟨.none, false⟩

def Reply.queue (reply : Reply) (header : Nat) (option : List UInt8) : Answer :=
  if header + 4 + reply.options.length + option.length > maxEther then ⟨some reply, true⟩
  else ⟨some { reply with options := reply.options ++ option }, false⟩

/-- `ppp_conf_rej`: queue an option in a rejection, which takes the place of a reply of
another kind. -/
def pppConfRej (header : Nat) (answer : Answer) (option : List UInt8) : Answer :=
  match answer.response with
  | some reply =>
      if reply.code = configRej then
        if answer.lost then answer else reply.queue header option
      else Reply.queue ⟨configRej, []⟩ header option
  | .none => Reply.queue ⟨configRej, []⟩ header option

/-- `ppp_conf_nak`: suggest another value for an option. After too many suggestions the
option is rejected, and the pointer is lost if a rejection was begun. -/
def pppConfNak (st : State) (s : Nat) (fsm : Fsm) (header : Nat) (answer : Answer)
    (option value : List UInt8) : State × Answer :=
  let failed := st.config.pppMaxFailure ≤ ((st.sessLocal s).timer fsm).nakSent
  let suggestion := option.take 1 ++ [UInt8.ofNat (value.length + 2)] ++ value
  match answer.response with
  | some reply =>
      if reply.code = configNak then
        (st, if answer.lost then answer else reply.queue header suggestion)
      else if failed then (st, pppConfRej header ⟨some reply, true⟩ option)
      else (st, answer)
  | .none =>
      if failed then (st, pppConfRej header answer option)
      else
        (st.setLocal s fun own =>
          own.setTimer { own.timer fsm with nakSent := (own.timer fsm).nakSent + 1 } fsm,
          Reply.queue ⟨configNak, []⟩ header suggestion)

/-- What is sent for a request of `l` bytes: the refused options, or all of it. Nothing is
known of a packet whose end is a null pointer. -/
def Answer.packet (answer : Answer) (memory : Memory) (l : Nat) : List UInt8 :=
  match answer.response with
  | some reply =>
      if answer.lost then [] else controlPacket reply.code (memory 1).toNat reply.options
  | .none => readBytes (writeBytes memory 0 [configAck]) 0 l

/-- Whether all options are acceptable. -/
def Answer.acks (answer : Answer) : Bool := answer.response.isNone

end L2tpns.Server
