import L2tpns.Server.Packets
import L2tpns.Server.Survival

/-! # The source of a user's packets

A packet of a user is dropped if its source is neither an address of the session nor one
that the maps give to it. There are two ways around that. An IPv4 packet from a link of a
bundle that has several is not checked, and a map may name the session for an address that
another user has. Otherwise no user sends with an address of another one
(`L2tpns.Server.source_right_iff`).
-/

namespace L2tpns.Server

open Foundation

/-- The tables, with what else is read when a packet is forwarded. -/
structure Gateway where
  st : State
  filterRules : Nat → List IpFilterRule
  tbfIn : Nat → Nat
  noThrottleLocalIp : Bool
  iamMaster : Bool
  mss : Nat

/-- What becomes of a packet. -/
inductive Inward where
  | dropped
  | sent (packet : List UInt8)
  | queued (tbf : Nat) (packet : List UInt8)
  | passed (tbf : Nat) (packet : List UInt8)
  | advertised (source : Nat)
  | dhcpv6 (packet : List UInt8)
deriving DecidableEq, Repr

def Inward.packet : Inward → Option (List UInt8)
  | .sent packet | .queued _ packet | .passed _ packet => some packet
  | .dropped | .advertised _ | .dhcpv6 _ => none

/-- The header of the device, with `PKTIP`. -/
def pktIp : List UInt8 := [0, 0, 0x08, 0x00]

/-- The header of the device, with `PKTIPV6`. -/
def pktIpv6 : List UInt8 := [0, 0, 0x86, 0xDD]

def sourceIpv6 (p : List UInt8) : Nat := bytesToNat (p.drop 8) 16

/-- The IPv4 address after the first 8 bytes of an IPv6 address. -/
def embeddedIpv4 (ip : Nat) : InAddr := UInt32.ofNat (ip / 2 ^ 32 % 2 ^ 32)

/-- An address in fe80::/64. -/
def linkLocal (ip : Nat) : Bool := ip / 2 ^ 64 = 0xFE80 * 2 ^ 48

/-- The segment size of a packet that opens a TCP connection is lowered. -/
def adjustMss (limit : Nat) (p : List UInt8) : List UInt8 :=
  if fragOffset p = 0 ∧ byteAt p 9 = ipprotoTcp then
    let ihl := headerLength p
    if ihl + 20 ≤ p.length ∧ p.getD (ihl + 13) 0 &&& tcpFlagSyn ≠ 0 ∧ 5 < byteAt p (ihl + 12) / 16
    then adjustTcpMss limit p ihl
    else p
  else p

def isRouterSolicitation (p : List UInt8) : Bool :=
  byteAt p 6 = 58 ∧ byteAt p 7 = 255 ∧ byteAt p 24 = 0xFF ∧ byteAt p 25 = 2 ∧ word p 26 = 0 ∧
    word p 30 = 0 ∧ word p 34 = 0 ∧ byteAt p 38 = 0 ∧ byteAt p 39 = 2 ∧ byteAt p 40 = 133

/-- A packet from the DHCPv6 client to the servers. -/
def isDhcpv6 (p : List UInt8) : Bool :=
  byteAt p 6 = 17 ∧ byteAt p 24 = 0xFF ∧ byteAt p 25 = 2 ∧ word p 26 = 0 ∧ word p 30 = 0 ∧
    half p 34 = 0 ∧ byteAt p 36 = 0 ∧ byteAt p 37 = 1 ∧ byteAt p 38 = 0 ∧ byteAt p 39 = 2 ∧
    byteAt p 40 = 2 ∧ byteAt p 41 = 0x22 ∧ byteAt p 42 = 2 ∧ byteAt p 43 = 0x23

namespace Gateway

variable (gateway : Gateway)

/-- Queue a packet in the bucket of its session, which the master does. -/
def throttle (s : Nat) (packet : List UInt8) : Inward :=
  if gateway.iamMaster then .queued (gateway.tbfIn s) packet
  else .passed (gateway.tbfIn s) packet

def processipin (s : Nat) (p : List UInt8) : Inward :=
  let st := gateway.st
  let session := st.session s
  let ip := word p 12
  if p.length < 20 then .dropped
  else if maxEther < p.length then .dropped
  else if session.ppp.phase ≠ .network ∨ session.ppp.ipcp ≠ .opened then .dropped
  else if (session.bundle = 0 ∨ (st.bundle session.bundle).numOfLinks < 2) ∧
      ¬ st.config.disableNoSpoof ∧ ip ≠ session.ip ∧ sessionbyip st ip ≠ s then .dropped
  else if session.filterIn ≠ 0 ∧ ¬ ipFilter (gateway.filterRules (session.filterIn - 1)) p then
    .dropped
  else
    let packet := pktIp ++ adjustMss gateway.mss p
    if gateway.tbfIn s ≠ 0 ∧ (¬ gateway.noThrottleLocalIp ∨ sessionbyip st (word p 16) = 0) then
      gateway.throttle s packet
    else .sent packet

def processipv6in (s : Nat) (p : List UInt8) : Inward :=
  let st := gateway.st
  let session := st.session s
  let ip := sourceIpv6 p
  if maxEther < p.length then .dropped
  else if session.ppp.phase ≠ .network ∨ session.ppp.ipv6cp ≠ .opened then .dropped
  else if (if hasIpv6 session.ipv6address then sessionbyipv6new st ip ≠ s ∧ ¬ linkLocal ip
      else (embeddedIpv4 ip ≠ session.ip ∨ bytesToNat st.config.ipv6Prefix 8 ≠ ip / 2 ^ 64) ∧
        sessionbyipv6 st ip ≠ s) then .dropped
  else if isRouterSolicitation p then .advertised ip
  else if isDhcpv6 p then .dhcpv6 p
  else if gateway.tbfIn s ≠ 0 then gateway.throttle s (pktIpv6 ++ p)
  else .sent (pktIpv6 ++ p)

end Gateway

inductive Datagram where
  | ipv4 (p : List UInt8)
  | ipv6 (p : List UInt8)

def Gateway.receive (gateway : Gateway) (s : Nat) : Datagram → Inward
  | .ipv4 p => gateway.processipin s p
  | .ipv6 p => gateway.processipv6in s p

def Gateway.Accepts (gateway : Gateway) (s : Nat) (datagram : Datagram) : Prop :=
  gateway.receive s datagram ≠ .dropped

/-- An address of either kind. -/
inductive Source where
  | ipv4 (ip : InAddr)
  | ipv6 (ip : Nat)

def Source.LinkLocal : Source → Prop
  | .ipv4 _ => False
  | .ipv6 ip => linkLocal ip = true

def Datagram.source : Datagram → Source
  | .ipv4 p => .ipv4 (word p 12)
  | .ipv6 p => .ipv6 (sourceIpv6 p)

namespace State

variable (st : State) (s : Nat)

/-- A session, or the links of its bundle. -/
def Own (x : Nat) : Prop :=
  x = s ∨ (st.session s).bundle ≠ 0 ∧
    ∃ i < (st.bundle (st.session s).bundle).numOfLinks,
      (st.bundle (st.session s).bundle).members i = x

/-- The address of a session, or one that is formed from the prefix of the server and it. -/
def Native : Source → Prop
  | .ipv4 ip => ip = (st.session s).ip
  | .ipv6 ip =>
      ip / 2 ^ 64 = bytesToNat st.config.ipv6Prefix 8 ∧ embeddedIpv4 ip = (st.session s).ip

/-- An address resolves to the session or to a link of its bundle. -/
def Resolves : Source → Prop
  | .ipv4 ip => st.Own s (sessionbyip st ip)
  | .ipv6 ip => st.Own s (sessionbyipv6 st ip) ∨ st.Own s (sessionbyipv6new st ip)

/-- An address of a session: its own, one of its routes, or one that is formed from the prefix
of the server and its own. Link-local addresses are nobody's. -/
def Has : Source → Prop
  | .ipv4 ip => (st.session s).ip ≠ 0 ∧ ip = (st.session s).ip ∨ Routed (st.session s).route ip
  | .ipv6 ip => linkLocal ip = false ∧
      (hasIpv6 (st.session s).ipv6address = true ∧ ip = (st.session s).ipv6address ∨
        (∃ route ∈ (st.session s).route6, ip / 2 ^ (128 - route.ipv6prefixlen) =
          route.ipv6route / 2 ^ (128 - route.ipv6prefixlen)) ∨
        (st.session s).ip ≠ 0 ∧ st.Native s (.ipv6 ip))

/-- An address of another live session, which is not a link of the same bundle. -/
def Foreign (source : Source) : Prop :=
  ∃ t, (st.session t).opened ≠ 0 ∧ (st.session t).die = 0 ∧ ¬ st.Own s t ∧ st.Has t source

/-- The address of a session is not that of another user. -/
def Apart : Prop := ∀ source, st.Native s source → ¬ st.Foreign s source

/-- A user may send from an address. -/
structure Right (source : Source) : Prop where
  own : st.Native s source ∨ source.LinkLocal ∨ st.Resolves s source
  unforeign : ¬ st.Foreign s source

/-- The map that is asked names the session. -/
def Named : Source → Prop
  | .ipv4 ip => sessionbyip st ip = s
  | .ipv6 ip =>
      if hasIpv6 (st.session s).ipv6address then sessionbyipv6new st ip = s
      else sessionbyipv6 st ip = s

/-- The source is not checked. -/
def Unchecked : Source → Prop
  | .ipv4 _ => (st.session s).bundle ≠ 0 ∧ 2 ≤ (st.bundle (st.session s).bundle).numOfLinks
  | .ipv6 _ => False

end State

/-- A packet is not dropped for anything but its source. -/
def Gateway.Passes (gateway : Gateway) (s : Nat) : Datagram → Prop
  | .ipv4 p =>
      let session := gateway.st.session s
      20 ≤ p.length ∧ p.length ≤ maxEther ∧ session.ppp.phase = .network ∧
        session.ppp.ipcp = .opened ∧ (session.filterIn ≠ 0 →
          ipFilter (gateway.filterRules (session.filterIn - 1)) p = true)
  | .ipv6 p =>
      let session := gateway.st.session s
      p.length ≤ maxEther ∧ session.ppp.phase = .network ∧ session.ppp.ipv6cp = .opened

/-- A source that is not checked is right, and the map that is asked does not name the session
for an address of another user. -/
structure State.Guarded (st : State) (s : Nat) (source : Source) : Prop where
  unchecked : st.Unchecked s source → st.Right s source
  named : st.Named s source → ¬ st.Foreign s source

section

variable {gateway : Gateway} {s : Nat}

theorem throttle_accepts (packet : List UInt8) : gateway.throttle s packet ≠ .dropped := by
  rw [Gateway.throttle]
  split <;> exact nofun

theorem throttle_packet (packet : List UInt8) :
    (gateway.throttle s packet).packet = some packet := by
  rw [Gateway.throttle]
  split <;> rfl

theorem processipin_accepts_iff (enforced : gateway.st.config.disableNoSpoof = false)
    (p : List UInt8) :
    gateway.Accepts s (.ipv4 p) ↔ gateway.Passes s (.ipv4 p) ∧
      (gateway.st.Unchecked s (.ipv4 (word p 12)) ∨ gateway.st.Native s (.ipv4 (word p 12)) ∨
        gateway.st.Named s (.ipv4 (word p 12))) := by
  rw [Gateway.Accepts, Gateway.receive, Gateway.processipin, Gateway.Passes]
  dsimp only [State.Unchecked, State.Native, State.Named]
  by_cases short : p.length < 20
  · rw [if_pos short]
    exact iff_of_false (fun other => other rfl) fun both => absurd short (Nat.not_lt.mpr both.1.1)
  rw [if_neg short]
  by_cases long : maxEther < p.length
  · rw [if_pos long]
    exact iff_of_false (fun other => other rfl) fun both =>
      absurd long (Nat.not_lt.mpr both.1.2.1)
  rw [if_neg long]
  by_cases closed : (gateway.st.session s).ppp.phase ≠ .network ∨
      (gateway.st.session s).ppp.ipcp ≠ .opened
  · rw [if_pos closed]
    exact iff_of_false (fun other => other rfl) fun both =>
      closed.elim (fun phase => phase both.1.2.2.1) fun ipcp => ipcp both.1.2.2.2.1
  rw [if_neg closed]
  rw [not_or, not_not, not_not] at closed
  rw [enforced]
  by_cases spoofed : ((gateway.st.session s).bundle = 0 ∨
      (gateway.st.bundle (gateway.st.session s).bundle).numOfLinks < 2) ∧ ¬ (false = true) ∧
      word p 12 ≠ (gateway.st.session s).ip ∧ sessionbyip gateway.st (word p 12) ≠ s
  · rw [if_pos spoofed]
    obtain ⟨checked, _, other, elsewhere⟩ := spoofed
    refine iff_of_false (fun other => other rfl) fun ⟨_, either⟩ => ?_
    rcases either with unchecked | native | named
    · rcases checked with none | few
      · exact unchecked.1 none
      · exact absurd few (Nat.not_lt.mpr unchecked.2)
    · exact other native
    · exact elsewhere named
  rw [if_neg spoofed]
  have passes : ((gateway.st.session s).bundle ≠ 0 ∧
      2 ≤ (gateway.st.bundle (gateway.st.session s).bundle).numOfLinks) ∨
      word p 12 = (gateway.st.session s).ip ∨ sessionbyip gateway.st (word p 12) = s := by
    by_contra none
    rw [not_or, not_or, not_and_or, not_not, Nat.not_le] at none
    exact spoofed ⟨none.1, Bool.false_ne_true, none.2.1, none.2.2⟩
  by_cases filtered : (gateway.st.session s).filterIn ≠ 0 ∧
      ¬ ipFilter (gateway.filterRules ((gateway.st.session s).filterIn - 1)) p = true
  · rw [if_pos filtered]
    exact iff_of_false (fun other => other rfl) fun both =>
      filtered.2 (both.1.2.2.2.2 filtered.1)
  rw [if_neg filtered]
  refine iff_of_true ?_ ⟨⟨Nat.not_lt.mp short, Nat.not_lt.mp long, closed.1, closed.2,
    fun used => ?_⟩, passes⟩
  · split
    · exact throttle_accepts _
    · exact nofun
  · by_contra refuses
    exact filtered ⟨used, refuses⟩

theorem processipv6in_accepts_iff (p : List UInt8) :
    gateway.Accepts s (.ipv6 p) ↔ gateway.Passes s (.ipv6 p) ∧
      (gateway.st.Named s (.ipv6 (sourceIpv6 p)) ∨
        if hasIpv6 (gateway.st.session s).ipv6address then linkLocal (sourceIpv6 p) = true
        else gateway.st.Native s (.ipv6 (sourceIpv6 p))) := by
  rw [Gateway.Accepts, Gateway.receive, Gateway.processipv6in, Gateway.Passes]
  dsimp only [State.Native, State.Named]
  by_cases long : maxEther < p.length
  · rw [if_pos long]
    exact iff_of_false (fun other => other rfl) fun both => absurd long (Nat.not_lt.mpr both.1.1)
  rw [if_neg long]
  by_cases closed : (gateway.st.session s).ppp.phase ≠ .network ∨
      (gateway.st.session s).ppp.ipv6cp ≠ .opened
  · rw [if_pos closed]
    exact iff_of_false (fun other => other rfl) fun both =>
      closed.elim (fun phase => phase both.1.2.1) fun ipv6cp => ipv6cp both.1.2.2
  rw [if_neg closed]
  rw [not_or, not_not, not_not] at closed
  have forwarded : (if isRouterSolicitation p = true then Inward.advertised (sourceIpv6 p)
      else if isDhcpv6 p = true then .dhcpv6 p
      else if gateway.tbfIn s ≠ 0 then gateway.throttle s (pktIpv6 ++ p)
      else .sent (pktIpv6 ++ p)) ≠ .dropped := by
    split
    · exact nofun
    split
    · exact nofun
    split
    · exact throttle_accepts _
    · exact nofun
  have passes := And.intro (Nat.not_lt.mp long) closed
  by_cases framed : hasIpv6 (gateway.st.session s).ipv6address = true
  · simp only [framed, if_true]
    by_cases spoofed : sessionbyipv6new gateway.st (sourceIpv6 p) ≠ s ∧
        ¬ linkLocal (sourceIpv6 p) = true
    · rw [if_pos spoofed]
      exact iff_of_false (fun other => other rfl) fun both =>
        both.2.elim spoofed.1 spoofed.2
    · rw [if_neg spoofed]
      rw [not_and_or, not_not, not_not] at spoofed
      exact iff_of_true forwarded ⟨passes, spoofed⟩
  · simp only [framed, Bool.false_eq_true, if_false]
    by_cases spoofed : (embeddedIpv4 (sourceIpv6 p) ≠ (gateway.st.session s).ip ∨
        bytesToNat gateway.st.config.ipv6Prefix 8 ≠ sourceIpv6 p / 2 ^ 64) ∧
        sessionbyipv6 gateway.st (sourceIpv6 p) ≠ s
    · rw [if_pos spoofed]
      refine iff_of_false (fun other => other rfl) fun both => ?_
      rcases both.2 with named | native
      · exact spoofed.2 named
      · exact spoofed.1.elim (fun other => other native.2) fun other => other native.1.symm
    · rw [if_neg spoofed]
      rw [not_and_or, not_or, not_not, not_not, not_not] at spoofed
      refine iff_of_true forwarded ⟨passes, ?_⟩
      exact spoofed.elim (fun native => .inr ⟨native.2.symm, native.1⟩) .inl

end

variable {st : State} {s : Nat} {source : Source}

theorem Source.LinkLocal.unforeign (nobody : source.LinkLocal) : ¬ st.Foreign s source := by
  rintro ⟨t, _, _, _, has⟩
  cases source with
  | ipv4 ip => exact nobody
  | ipv6 ip => exact Bool.false_ne_true (has.1.symm.trans nobody)

theorem State.Named.resolves (named : st.Named s source) : st.Resolves s source := by
  cases source with
  | ipv4 ip => exact .inl named
  | ipv6 ip =>
      rw [State.Named] at named
      split at named
      · exact .inr (.inl named)
      · exact .inl (.inl named)

section

variable {gateway : Gateway}

/-- An accepted packet passes. Its source is not checked, or it is the address of the session,
or link-local, or the map names the session for it. -/
theorem Gateway.Accepts.cases (enforced : gateway.st.config.disableNoSpoof = false)
    {datagram : Datagram} (accepts : gateway.Accepts s datagram) :
    gateway.Passes s datagram ∧ (gateway.st.Unchecked s datagram.source ∨
      gateway.st.Native s datagram.source ∨ datagram.source.LinkLocal ∨
        gateway.st.Named s datagram.source) := by
  cases datagram with
  | ipv4 p =>
      obtain ⟨passes, unchecked | native | named⟩ := (processipin_accepts_iff enforced p).mp accepts
      · exact ⟨passes, .inl unchecked⟩
      · exact ⟨passes, .inr (.inl native)⟩
      · exact ⟨passes, .inr (.inr (.inr named))⟩
  | ipv6 p =>
      obtain ⟨passes, either⟩ := (processipv6in_accepts_iff p).mp accepts
      refine ⟨passes, .inr ?_⟩
      rcases either with named | other
      · exact .inr (.inr named)
      · split at other
        · exact .inr (.inl other)
        · exact .inl other

theorem Gateway.Passes.accepts (enforced : gateway.st.config.disableNoSpoof = false)
    {datagram : Datagram} (passes : gateway.Passes s datagram)
    (lets : gateway.st.Unchecked s datagram.source ∨ gateway.st.Named s datagram.source) :
    gateway.Accepts s datagram := by
  cases datagram with
  | ipv4 p =>
      exact (processipin_accepts_iff enforced p).mpr ⟨passes, lets.imp_right .inr⟩
  | ipv6 p =>
      exact (processipv6in_accepts_iff p).mpr ⟨passes, .inl (lets.resolve_left id)⟩

/-- **Sources.** A packet that is accepted comes from an address that the user may send from,
and not from one of another user, if and only if it would be dropped for something else, or
its source is checked or right, and the map that is asked does not name the session for an
address of another user. -/
theorem source_right_iff (enforced : gateway.st.config.disableNoSpoof = false)
    (apart : gateway.st.Apart s) (datagram : Datagram) :
    (gateway.Accepts s datagram → gateway.st.Right s datagram.source) ↔
      (gateway.Passes s datagram → gateway.st.Guarded s datagram.source) := by
  constructor
  · intro right passes
    exact ⟨fun unchecked => right (passes.accepts enforced (.inl unchecked)),
      fun named => (right (passes.accepts enforced (.inr named))).unforeign⟩
  · intro guarded accepts
    obtain ⟨passes, unchecked | native | nobody | named⟩ := accepts.cases enforced
    · exact (guarded passes).unchecked unchecked
    · exact ⟨.inl native, apart _ native⟩
    · exact ⟨.inr (.inl nobody), nobody.unforeign⟩
    · exact ⟨.inr (.inr named.resolves), (guarded passes).named named⟩

end

/-- PPP goes on aside from the rest. -/
theorem setPpp_beside (clock : st.timeNow ≠ 0) (s : Nat) (change : Ppp → Ppp) :
    Beside st (st.setSession s fun session => { session with ppp := change session.ppp }) ∧
      KeepsAddresses st (st.setSession s fun session =>
        { session with ppp := change session.ppp }) := by
  have frame {β : Type} (read : Session → β)
      (same : read { st.session s with ppp := change (st.session s).ppp } = read (st.session s))
      (x : Nat) : read ((st.setSession s fun session =>
        { session with ppp := change session.ppp }).session x) = read (st.session x) :=
    State.setSession_frame read same x
  refine ⟨⟨⟨fun _ => rfl, fun x => .inr ⟨frame Session.opened rfl x, frame Session.die rfl x,
    frame Session.bundle rfl x, .inl (frame Session.ip rfl x)⟩⟩, rfl, rfl, clock,
    frame Session.next rfl, frame Session.opened rfl, frame Session.die rfl,
    frame Session.bundle rfl, fun x => .inl (frame Session.ipPoolIndex rfl x)⟩, fun x _ _ => ?_⟩
  exact ⟨frame Session.ip rfl x, frame Session.deed rfl x⟩

/-- A third session has got an address. -/
def thirdLink : State := framedIp (openSession (bothUp 20) 3 1) 3 30

/-- It is set up, and the first link of the bundle has opened IPCP. -/
def bundledState : State :=
  (sessionsetup thirdLink 3 1).setSession 1 fun session =>
    { session with ppp := { session.ppp with phase := .network, ipcp := .opened } }

theorem thirdLink_reachable : tenantSystem.ReachableUnder KeepsTenants thirdLink := by
  have free : 3 = (bothUp 20).sessionfree := by decide
  have opened : tenantSystem.ReachableUnder KeepsTenants (openSession (bothUp 20) 3 1) :=
    .step (.openSession 3 1) (bothUp_reachable (.inr rfl)) (Nat.succ_ne_zero 2) ⟨rfl, free⟩
  have own : ((openSession (bothUp 20) 3 1).session 3).opened ≠ 0 ∧
      ((openSession (bothUp 20) 3 1).session 3).ip = 0 ∧
        ((openSession (bothUp 20) 3 1).session 3).bundle = 0 := by decide
  have tenanted := tenanted_of_reachable opened
  rw [thirdLink]
  generalize openSession (bothUp 20) 3 1 = st at own opened tenanted ⊢
  exact .step (.aside _) opened (tenanted.keepsAddresses own.1 own.2.1 own.2.2 _)
    ⟨rfl, framedIp_beside own.2.2 tenanted.strung.clock 30⟩

theorem bundledState_reachable : tenantSystem.ReachableUnder KeepsTenants bundledState := by
  have alone : ¬ WantsBundle thirdLink 3 := by decide
  have plain : ((thirdLink.session 3).opened ≠ 0 ∧ (thirdLink.session 3).die = 0) ∧
      (thirdLink.session 3).bundle = 0 ∧ (thirdLink.session 3).ip = 30 ∧
        (thirdLink.session 3).ipPoolIndex = -1 ∧ (thirdLink.session 3).route = [] ∧
          thirdLink.config.suicideDuplicateIp = false ∧ thirdLink.time = 0 ∧
            (thirdLink.session 3).forwardtosession = 0 := by decide
  obtain ⟨live, unlinked, addressed, static, unrouted, suicide, time, unforwarded⟩ := plain
  have awake : thirdLink.Awake := by
    rw [State.Awake, time]
    decide
  have installed : tenantSystem.ReachableUnder KeepsTenants (sessionsetup thirdLink 3 1) :=
    .step (.setup 3 1) thirdLink_reachable ⟨awake, framed_may live alone unlinked addressed
      (by decide) static unrouted (by decide) suicide⟩ ⟨rfl, unforwarded⟩
  obtain ⟨beside, keeps⟩ := setPpp_beside (tenanted_of_reachable installed).strung.clock 1
    fun ppp => { ppp with phase := .network, ipcp := .opened }
  exact .step (.aside bundledState) installed keeps ⟨rfl, beside⟩

def bundledGateway : Gateway where
  st := bundledState
  filterRules := fun _ => []
  tbfIn := fun _ => 0
  noThrottleLocalIp := false
  iamMaster := true
  mss := 1460

theorem bundledGateway_facts :
    bundledState.highestSessionid = 3 ∧ (bundledState.session 1).ip = 20 ∧
      (bundledState.session 1).bundle = 1 ∧ (bundledState.bundle 1).numOfLinks = 2 ∧
        (bundledState.bundle 1).members 0 = 1 ∧ (bundledState.bundle 1).members 1 = 2 ∧
          ((bundledState.session 3).opened ≠ 0 ∧ (bundledState.session 3).die = 0) ∧
            (bundledState.session 3).ip = 30 ∧ (bundledState.session 3).route = [] ∧
              bundledState.config.ipv6Prefix = [] ∧ (bundledState.session 3).route6 = [] ∧
                (bundledState.session 3).ipv6address = 0 := by
  decide

/-- Sessions 1 and 2 are the links, and 3 is the only other session. -/
theorem bundledGateway_apart : bundledGateway.st.Apart 1 := by
  obtain ⟨highest, own, bundle, count, first, second, _, other, unrouted, _, unrouted6,
    unframed⟩ := bundledGateway_facts
  have tenanted := tenanted_of_reachable bundledState_reachable
  rintro source native ⟨t, used, _, outside, has⟩
  have within := tenanted.numbered t used
  have some := (tenanted.strung.inUse t used).1
  have third : t = 3 := by
    rw [highest] at within
    have notFirst : t ≠ 1 := fun same => outside (.inl same)
    have notSecond : t ≠ 2 := by
      rintro rfl
      refine outside (.inr ⟨?_, 1, ?_, ?_⟩)
      · exact bundle ▸ Nat.one_ne_zero
      · change 1 < (bundledState.bundle (bundledState.session 1).bundle).numOfLinks
        rw [bundle, count]
        decide
      · change (bundledState.bundle (bundledState.session 1).bundle).members 1 = 2
        rw [bundle, second]
    omega
  rw [third] at has
  cases source with
  | ipv4 ip =>
      rcases has with ⟨_, same⟩ | ⟨route, member, _⟩
      · have both : (bundledState.session 1).ip = (bundledState.session 3).ip :=
          native.symm.trans same
        rw [own, other] at both
        exact absurd both (by decide)
      · rw [show (bundledGateway.st.session 3).route = [] from unrouted] at member
        exact absurd member List.not_mem_nil
  | ipv6 ip =>
      rcases has.2 with ⟨framed, _⟩ | ⟨route, member, _⟩ | ⟨_, formed⟩
      · rw [show (bundledGateway.st.session 3).ipv6address = 0 from unframed] at framed
        exact absurd framed (by decide)
      · rw [show (bundledGateway.st.session 3).route6 = [] from unrouted6] at member
        exact absurd member List.not_mem_nil
      · have both : (bundledState.session 1).ip = (bundledState.session 3).ip :=
          native.2.symm.trans formed.2
        rw [own, other] at both
        exact absurd both (by decide)

/-- A packet with the address of session 3 as its source. -/
def spoofedPacket : List UInt8 :=
  [0x45, 0, 0, 20, 0, 0, 0, 0, 64, 59, 0, 0, 0, 0, 0, 30, 8, 8, 8, 8]

/-- Session 1 sends it. -/
theorem source_spoofed :
    ¬ ∀ (gateway : Gateway) (s : Nat), tenantSystem.Reachable gateway.st →
      gateway.st.config.disableNoSpoof = false → gateway.st.Apart s →
        ∀ datagram, gateway.Accepts s datagram → gateway.st.Right s datagram.source := by
  intro right
  have reached : tenantSystem.Reachable bundledState :=
    bundledState_reachable.weaken fun _ _ _ => trivial
  have enforced : bundledState.config.disableNoSpoof = false := by decide
  have accepts : bundledGateway.processipin 1 spoofedPacket ≠ .dropped := by decide
  obtain ⟨_, _, bundle, count, first, second, live, other, _⟩ := bundledGateway_facts
  refine (right bundledGateway 1 reached enforced bundledGateway_apart (.ipv4 spoofedPacket)
    accepts).unforeign ⟨3, live.1, live.2, ?_, .inl ⟨?_, ?_⟩⟩
  · rintro (same | ⟨_, i, within, member⟩)
    · exact absurd same (by decide)
    · change i < (bundledState.bundle (bundledState.session 1).bundle).numOfLinks at within
      change (bundledState.bundle (bundledState.session 1).bundle).members i = 3 at member
      rw [bundle, count] at within
      rw [bundle] at member
      have place : i = 0 ∨ i = 1 := by omega
      rcases place with rfl | rfl
      · rw [first] at member
        exact absurd member (by decide)
      · rw [second] at member
        exact absurd member (by decide)
  · change (bundledState.session 3).ip ≠ 0
    rw [other]
    decide
  · change word spoofedPacket 12 = (bundledState.session 3).ip
    rw [other]
    decide

/-- A packet with the address of the bundle. -/
theorem source_right_iff_bundled :
    (bundledGateway.Accepts 1 (.ipv4 (spoofedPacket.set 15 20)) →
      bundledGateway.st.Right 1 (.ipv4 (word (spoofedPacket.set 15 20) 12))) ↔
    (bundledGateway.Passes 1 (.ipv4 (spoofedPacket.set 15 20)) →
      bundledGateway.st.Guarded 1 (.ipv4 (word (spoofedPacket.set 15 20) 12))) :=
  source_right_iff (by decide) bundledGateway_apart _

end L2tpns.Server
