import L2tpns.Dhcp6.SearchName
import L2tpns.Encap.Makeppp
import L2tpns.Foundation.TagList
import L2tpns.Icmp.Checksum

/-! # The DHCPv6 server

`dhcpv6_process` notes the last option of each kind in a message, and answers by its type from the
session that the message came in on. A pointer to an option is its offset behind the header of the
message here. Besides its result each step keeps whether what was read is inside of the packet
that was received.
-/

namespace L2tpns.Dhcp6

open Foundation
open Avp (Memory ntohs readBytes writeBytes)
open Icmp (ipv6Checksum)
open Server (bytes16 bytes32 maxEther)

def solicit : UInt8 := 1

def advertise : UInt8 := 2

def request : UInt8 := 3

def renew : UInt8 := 5

def reply : UInt8 := 7

def informationRequest : UInt8 := 11

def optClientId : Nat := 1

def optServerId : Nat := 2

def optIaNa : Nat := 3

def optIaTa : Nat := 4

def optIaAddr : Nat := 5

def optOro : Nat := 6

def optPreference : Nat := 7

def optStatusCode : Nat := 13

def optRapidCommit : Nat := 14

def optDnsServers : Nat := 23

def optDomainList : Nat := 24

def optIaPd : Nat := 25

def optIaPrefix : Nat := 26

def statusUnspecFail : Nat := 1

def statusNoBinding : Nat := 3

abbrev In6Addr := Vector UInt8 16

/-- The configuration. The domain list is a text in a field of 255 bytes. -/
structure Config where
  debug : Nat
  dhcp6PreferredLifetime : UInt32
  dhcp6ValidLifetime : UInt32
  dhcp6ServerDuid : UInt32
  ipv6Prefix : In6Addr
  defaultIpv6Dns1 : In6Addr
  defaultIpv6Dns2 : In6Addr
  defaultIpv6DomainList : List UInt8
  dns6Lifetime : UInt32
  domainList_short : defaultIpv6DomainList.length < 255

structure Route6 where
  ipv6route : In6Addr
  ipv6prefixlen : UInt8
deriving DecidableEq, Repr

/-- What is read and written of a session. Of the record of the client, an option of at most 134
bytes, what was not written is zero. -/
structure Session where
  ip : UInt32
  ipv6address : In6Addr
  route6 : Vector Route6 5
  dhcpv6ClientId : Memory
  dhcpv6PrefixIaid : List UInt8
  dhcpv6IanaIaid : List UInt8

/-- What an answer goes through: the state of the frames, the session and its tunnel. -/
structure Line where
  encap : Encap.State
  s : Nat
  t : Nat

/-- The options of a message behind its IPv6, UDP and DHCPv6 headers, up to the end that the IPv6
header declares. -/
def optionsOf (p : Memory) : TagList := ⟨p, 52, ntohs p 4 + 40 - 52⟩

/-- `struct dhcp6_in_option`, the last option of each kind, and whether the headers were inside
of the packet. -/
structure InOption where
  clientid : Option Nat
  serverid : Option Nat
  iaNa : Option Nat
  iaTa : Option Nat
  iaPd : Option Nat
  oro : Option Nat
  rapidcommit : Option Nat
  inside : Bool
deriving DecidableEq, Repr

def InOption.initial : InOption := ⟨none, none, none, none, none, none, none, true⟩

/-- Note the option at `n` by its code. -/
def InOption.set (found : InOption) (code n : Nat) : InOption :=
  if code = optClientId then { found with clientid := some n }
  else if code = optServerId then { found with serverid := some n }
  else if code = optRapidCommit then { found with rapidcommit := some n }
  else if code = optIaNa then { found with iaNa := some n }
  else if code = optIaTa then { found with iaTa := some n }
  else if code = optOro then { found with oro := some n }
  else if code = optIaPd then { found with iaPd := some n }
  else found

/-- What the loop of `dhcpv6_process` does with an option of a packet of `l` bytes. -/
def noteOption (options : TagList) (l : Nat) (found : InOption) (n : Nat) : InOption :=
  { found.set (options.type n) n with
    inside := found.inside && options.base + n + 4 ≤ l }

def optionBytes (options : TagList) (n : Nat) : List UInt8 :=
  readBytes options.data (options.base + n) (4 + options.length n)

/-- A whole option is inside of a packet of `l` bytes. -/
def Whole (options : TagList) (l n : Nat) : Prop := options.base + n + (4 + options.length n) ≤ l

instance (options : TagList) (l n : Nat) : Decidable (Whole options l n) :=
  inferInstanceAs (Decidable (_ ≤ _))

/-- The identifier of an association, the first four bytes of its option. -/
def iaid (options : TagList) (n : Nat) : List UInt8 :=
  readBytes options.data (options.base + n + 4) 4

/-- `dhcp6_local_serverid` after `dhcpv6_init`. -/
def localServerid (config : Config) : List UInt8 :=
  bytes16 optServerId ++ bytes16 8 ++ bytes16 3 ++ bytes16 27 ++
    bytes32 (if config.dhcp6ServerDuid ≠ 0 then config.dhcp6ServerDuid.toNat else 0xFDFDFAFA)

/-- A lifetime or a part of one; everlasting if it is not configured. -/
def lifetime (configured part : UInt32) : List UInt8 :=
  if 0 < configured then bytes32 part.toNat else List.replicate 4 0xFF

def statusOption (code : Nat) : List UInt8 := bytes16 optStatusCode ++ bytes16 2 ++ bytes16 code

/-- The header of an association with its identifier and its times T1 and T2. -/
def iaHead (config : Config) (code len : Nat) (iaid : List UInt8) : List UInt8 :=
  let preferred := config.dhcp6PreferredLifetime
  bytes16 code ++ bytes16 len ++ iaid ++ lifetime preferred (preferred / 2) ++
    lifetime preferred (preferred * 4 / 5)

def iaPrefixOption (config : Config) (route : Route6) : List UInt8 :=
  bytes16 optIaPrefix ++ bytes16 25 ++
    lifetime config.dhcp6PreferredLifetime config.dhcp6PreferredLifetime ++
    lifetime config.dhcp6ValidLifetime config.dhcp6ValidLifetime ++
    route.ipv6prefixlen :: route.ipv6route.toList

/-- The byte `s6_addr[0]`, which is zero in no address that is set. -/
def leading (address : In6Addr) : UInt8 := address[0]

def Route6.IsSet (route : Route6) : Prop := leading route.ipv6route ≠ 0 ∧ route.ipv6prefixlen ≠ 0

instance (route : Route6) : Decidable route.IsSet := inferInstanceAs (Decidable (_ ∧ _))

/-- The first route is there. -/
def Session.Delegates (session : Session) : Prop := session.route6[0].IsSet

instance (session : Session) : Decidable session.Delegates :=
  inferInstanceAs (Decidable session.route6[0].IsSet)

/-- The routes in front of the first that is not there. -/
def Session.prefixes (session : Session) : List Route6 :=
  session.route6.toList.takeWhile fun route => route.IsSet

/-- The address for a client, its own or one with its IPv4 address. -/
def Session.address (session : Session) (config : Config) : List UInt8 :=
  if leading session.ipv6address ≠ 0 then session.ipv6address.toList
  else config.ipv6Prefix.toList.take 8 ++ bytes32 session.ip.toNat ++ List.replicate 4 0

def iaAddrOption (config : Config) (session : Session) : List UInt8 :=
  bytes16 optIaAddr ++ bytes16 24 ++ session.address config ++
    lifetime config.dhcp6PreferredLifetime config.dhcp6PreferredLifetime ++
    lifetime config.dhcp6ValidLifetime config.dhcp6ValidLifetime

/-- The answer for delegated prefixes, and the session with the identifier recorded. -/
def iaPdAnswer (config : Config) (session : Session) (type : UInt8) (rapidcommit : Bool)
    (iaid : List UInt8) : Session × List UInt8 :=
  if type = renew ∧ session.dhcpv6PrefixIaid ≠ iaid then
    (session, iaHead config optIaPd (12 + 6) iaid ++ statusOption statusNoBinding)
  else
    let recorded :=
      if type = request ∨ rapidcommit then { session with dhcpv6PrefixIaid := iaid } else session
    let lenopt := 12 + 29 * session.prefixes.length
    (recorded,
      iaHead config optIaPd lenopt iaid ++ session.prefixes.flatMap (iaPrefixOption config))

/-- The answer for an address, and the session with the identifier recorded. -/
def iaNaAnswer (config : Config) (session : Session) (type : UInt8) (rapidcommit : Bool)
    (iaid : List UInt8) : Session × List UInt8 :=
  if type = renew ∧ session.dhcpv6IanaIaid ≠ iaid then
    (session, iaHead config optIaNa (12 + 6) iaid ++ statusOption statusNoBinding)
  else
    let recorded :=
      if type = request ∨ rapidcommit then { session with dhcpv6IanaIaid := iaid } else session
    (recorded, iaHead config optIaNa (12 + 28) iaid ++ iaAddrOption config session)

/-- The answer for a temporary address, which there is none of. -/
def iaTaAnswer (iaid : List UInt8) : List UInt8 :=
  bytes16 optIaTa ++ bytes16 (4 + 6) ++ iaid ++ statusOption statusUnspecFail

/-- The option with the name servers, if there is one. -/
def dnsOption (config : Config) : List UInt8 :=
  if leading config.defaultIpv6Dns1 = 0 then []
  else if leading config.defaultIpv6Dns2 = 0 then
    bytes16 optDnsServers ++ bytes16 16 ++ config.defaultIpv6Dns1.toList
  else
    bytes16 optDnsServers ++ bytes16 (2 * 16) ++ config.defaultIpv6Dns1.toList ++
      config.defaultIpv6Dns2.toList

/-- The option with the search name, if there is one that can be encoded. -/
def domainOption (config : Config) : List UInt8 :=
  match dhcpv6FormatDnsSearchName config.defaultIpv6DomainList with
  | none => []
  | some (len, buffer) =>
      if 0 < len then bytes16 optDomainList ++ bytes16 len ++ buffer.take len else []

/-- The options for a code that was asked for. -/
def demanded (config : Config) (code : Nat) : List UInt8 :=
  (if code = optDnsServers then dnsOption config else []) ++
    if code = optDomainList then domainOption config else []

/-- The codes that an option asks for. -/
def demands (options : TagList) (oro : Nat) : List Nat :=
  (List.range (options.length oro / 2)).map fun k =>
    ntohs options.data (options.base + oro + 4 + 2 * k)

/-- FE02::1:2 -/
def replySource : In6Addr := #v[0xFE, 0x02, 0, 0, 0, 0, 0, 0, 0, 0, 0, 0, 0, 1, 0, 2]

/-- An IPv6 header with a payload of `plen` bytes. -/
def ip6Header (plen : Nat) (nxt hlim : UInt8) (src dst : List UInt8) : List UInt8 :=
  [0x60, 0, 0, 0] ++ bytes16 plen ++ [nxt, hlim] ++ src ++ dst

/-- `struct ipv6_pseudo_hdr` -/
def pseudoHdr (src dst : List UInt8) (ulpLength : Nat) (nexthdr : UInt8) : List UInt8 :=
  src ++ dst ++ bytes32 ulpLength ++ [0, 0, 0, nexthdr]

/-- A packet over UDP with its lengths and its checksum. -/
def udpPacket (src dst : List UInt8) (source dest : Nat) (payload : List UInt8) : List UInt8 :=
  let len := 8 + payload.length
  let udp (check : Nat) : List UInt8 :=
    bytes16 source ++ bytes16 dest ++ bytes16 len ++ bytes16 check ++ payload
  ip6Header len 17 1 src dst ++ udp (ipv6Checksum (pseudoHdr src dst len 17) (udp 0))

/-- What is read of the packet besides the headers of options: the type and the transaction, the
address of the client, and of the options what is used. -/
def ReplyReads (options : TagList) (l : Nat) (type : UInt8) (found : InOption) : Prop :=
  52 ≤ l ∧ (∀ n ∈ found.clientid, Whole options l n) ∧
    (type ≠ informationRequest →
      (∀ n ∈ found.iaPd, options.base + n + 8 ≤ l) ∧
      (∀ n ∈ found.iaNa, options.base + n + 8 ≤ l) ∧
      ∀ n ∈ found.iaTa, options.base + n + 8 ≤ l) ∧
    ∀ n ∈ found.oro, options.base + n + 4 + 2 * (options.length n / 2) ≤ l

instance (options : TagList) (l : Nat) (type : UInt8) (found : InOption) :
    Decidable (ReplyReads options l type found) :=
  inferInstanceAs (Decidable (_ ∧ _ ∧ (_ → _ ∧ _ ∧ _) ∧ _))

/-- How a message is handled: the session, the packet that answers it from its IPv6 header on,
whether the answer is inside of its buffer, and what was read inside of the packet. A request is
answered with an advertisement of the router, too. -/
structure Handled where
  session : Session
  answer : Option (List UInt8)
  advert : Bool
  fits : Bool
  inside : Bool

/-- A message that is not answered. -/
def unanswered (session : Session) (inside : Bool) : Handled :=
  ⟨session, none, false, true, inside⟩

/-- The options of the answer, and the session with what it records. -/
def replyOptions (config : Config) (session : Session) (options : TagList) (type : UInt8)
    (found : InOption) : Session × List UInt8 :=
  let rapidcommit := found.rapidcommit.isSome
  let clientid := found.clientid.elim [] (optionBytes options)
  let associations := type ≠ informationRequest
  let pd := match found.iaPd with
    | some n => if associations then iaPdAnswer config session type rapidcommit (iaid options n)
        else (session, [])
    | none => (session, [])
  let na := match found.iaNa with
    | some n => if associations then iaNaAnswer config pd.1 type rapidcommit (iaid options n)
        else (pd.1, [])
    | none => (pd.1, [])
  let ta := match found.iaTa with
    | some n => if associations then iaTaAnswer (iaid options n) else []
    | none => []
  let oro := found.oro.elim [] fun n => (demands options n).flatMap (demanded config)
  let rapid := if rapidcommit ∧ type = solicit then bytes16 optRapidCommit ++ bytes16 0 else []
  (na.1, localServerid config ++ clientid ++ pd.2 ++ na.2 ++ ta ++ oro ++ rapid ++
    bytes16 optPreference ++ bytes16 1 ++ [255])

/-- `dhcp6_send_reply`; the header of the frame is in the same buffer. -/
def dhcp6SendReply (config : Config) (line : Line) (session : Session) (p : Memory) (l : Nat)
    (found : InOption) : Handled :=
  let options := optionsOf p
  let type := p 48
  let made := Encap.makeppp line.encap (fun _ => 0) 0 (maxEther + 20) none 0 line.s line.t 0x57
    false 0 0
  let built := replyOptions config session options type found
  let answerType := if type = solicit ∧ found.rapidcommit = none then advertise else reply
  let packet := udpPacket replySource.toList (readBytes p 8 16) 547 546
    (answerType :: readBytes p 49 3 ++ built.2)
  -- a header that was not made would be a null pointer
  ⟨built.1, some packet, false, made.frame.any fun start => start + packet.length ≤ maxEther + 20,
    ReplyReads options l type found⟩

/-- `sizeof(struct dhcp6_duid)` -/
def duidSize : Nat := 130

/-- The option at `n` is the recorded client; the bytes are compared if the lengths are equal. -/
def sameClient (session : Session) (options : TagList) (n : Nat) : Prop :=
  ntohs session.dhcpv6ClientId 2 = options.length n ∧
    readBytes session.dhcpv6ClientId 0 (4 + options.length n) = optionBytes options n

instance (session : Session) (options : TagList) (n : Nat) :
    Decidable (sameClient session options n) :=
  inferInstanceAs (Decidable (_ ∧ _))

def Session.hasClient (session : Session) : Bool := ntohs session.dhcpv6ClientId 2 ≠ 0

/-- What is done with the client of a message: the session, whether the message is accepted, and
whether what was read is inside of the packet. -/
structure Claimed where
  session : Session
  accepted : Bool
  inside : Bool

def compareClient (session : Session) (options : TagList) (l n : Nat) : Claimed :=
  ⟨session, sameClient session options n,
    ntohs session.dhcpv6ClientId 2 = options.length n → Whole options l n⟩

/-- Record the client if none is, or compare it. -/
def claimClient (session : Session) (options : TagList) (l n : Nat) : Claimed :=
  if session.hasClient then compareClient session options l n
  else if 0 < options.length n ∧ options.length n ≤ duidSize then
    ⟨{ session with
        dhcpv6ClientId := writeBytes session.dhcpv6ClientId 0 (optionBytes options n) },
      true, Whole options l n⟩
  else ⟨session, false, true⟩

/-- The option at `n` is the identifier of this server. -/
def ourServer (config : Config) (options : TagList) (n : Nat) : Prop :=
  options.length n = 8 ∧ optionBytes options n = localServerid config

instance (config : Config) (options : TagList) (n : Nat) :
    Decidable (ourServer config options n) :=
  inferInstanceAs (Decidable (_ ∧ _))

/-- The identifier of the server is read only if it has the length of ours. -/
def serverReads (options : TagList) (l n : Nat) : Bool :=
  options.length n = 8 → Whole options l n

/-- Note whether what was read before is inside of the packet. -/
def Handled.after (handled : Handled) (inside : Bool) : Handled :=
  { handled with inside := inside && handled.inside }

/-- A solicitation. -/
def processSolicit (config : Config) (line : Line) (session : Session) (p : Memory) (l : Nat)
    (found : InOption) : Handled :=
  let options := optionsOf p
  match found.clientid with
  | none => unanswered session true
  | some n =>
      let claimed := if found.rapidcommit.isSome then claimClient session options l n
        else ⟨session, true, true⟩
      if ¬ claimed.accepted then unanswered claimed.session claimed.inside
      else if found.serverid.isSome then unanswered claimed.session claimed.inside
      else (dhcp6SendReply config line claimed.session p l found).after claimed.inside

/-- A request. -/
def processRequest (config : Config) (line : Line) (session : Session) (p : Memory) (l : Nat)
    (found : InOption) : Handled :=
  let options := optionsOf p
  match found.clientid, found.serverid with
  | some n, some server =>
      if ¬ ourServer config options server then unanswered session (serverReads options l server)
      else
        let claimed := claimClient session options l n
        let inside := serverReads options l server && claimed.inside
        if ¬ claimed.accepted then unanswered claimed.session inside
        else
          { (dhcp6SendReply config line claimed.session p l found).after inside with
            advert := true }
  | _, _ => unanswered session true

/-- A renewal. -/
def processRenew (config : Config) (line : Line) (session : Session) (p : Memory) (l : Nat)
    (found : InOption) : Handled :=
  let options := optionsOf p
  match found.clientid with
  | none => unanswered session true
  | some n =>
      let claimed := compareClient session options l n
      if ¬ claimed.accepted then unanswered session claimed.inside
      else
        match found.serverid with
        | none => unanswered session claimed.inside
        | some server =>
            let inside := claimed.inside && serverReads options l server
            if ¬ ourServer config options server then unanswered session inside
            else (dhcp6SendReply config line session p l found).after inside

def processInformationRequest (config : Config) (line : Line) (session : Session) (p : Memory)
    (l : Nat) (found : InOption) : Handled :=
  if found.clientid = none then unanswered session true
  else dhcp6SendReply config line session p l found

/-- `dhcpv6_process` for a packet of `l` bytes. -/
def dhcpv6Process (config : Config) (line : Line) (session : Session) (p : Memory) (l : Nat) :
    Handled :=
  -- the type of the message is logged first
  if ¬ session.Delegates then unanswered session (3 ≤ config.debug → 49 ≤ l)
  else
    let found := (optionsOf p).walk (noteOption (optionsOf p) l) .initial 0
    -- the length in the IPv6 header and the type of the message
    let inside := found.inside && 49 ≤ l
    let type := p 48
    let handled :=
      if type = solicit then processSolicit config line session p l found
      else if type = request then processRequest config line session p l found
      else if type = renew then processRenew config line session p l found
      else if type = informationRequest then
        processInformationRequest config line session p l found
      else unanswered session true
    handled.after inside

/-- A configuration without name servers. -/
def plainConfig : Config where
  debug := 1
  dhcp6PreferredLifetime := 0
  dhcp6ValidLifetime := 0
  dhcp6ServerDuid := 0
  ipv6Prefix := #v[0x20, 0x01, 0x0D, 0xB8, 0, 0, 0, 0, 0, 0, 0, 0, 0, 0, 0, 0]
  defaultIpv6Dns1 := Vector.replicate 16 0
  defaultIpv6Dns2 := Vector.replicate 16 0
  defaultIpv6DomainList := []
  dns6Lifetime := 0
  domainList_short := by decide

/-- A session with prefixes to delegate that has recorded nothing. -/
def delegating : Session where
  ip := 0x0A000001
  ipv6address := Vector.replicate 16 0
  route6 := Vector.replicate 5 ⟨Vector.replicate 16 0x20, 64⟩
  dhcpv6ClientId := fun _ => 0
  dhcpv6PrefixIaid := List.replicate 4 0
  dhcpv6IanaIaid := List.replicate 4 0

/-- A session of a tunnel. -/
def plainLine : Line where
  encap := ⟨L2tp.linked, fun _ => 0, fun _ => false, fun _ => ⟨0, 0⟩, true⟩
  s := 2
  t := 2

/-- A packet of that client to all servers, with a message and the payload length that it
declares. -/
def clientPacket (plen : Nat) (type : UInt8) (options : List UInt8) : Memory :=
  writeBytes (fun _ => 0) 0
    (ip6Header plen 17 1 (delegating.address plainConfig)
        ([0xFF, 0x02] ++ List.replicate 11 0 ++ [1, 0, 2]) ++
      bytes16 546 ++ bytes16 547 ++ bytes16 plen ++ bytes16 0 ++ [type, 0, 0, 1] ++ options)

end L2tpns.Dhcp6
