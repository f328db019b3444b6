import L2tpns.Bgp.Input
import L2tpns.Foundation.ItemList

/-! # The capabilities in an OPEN

The loops over the optional parameters of an OPEN and over the capabilities in them read a
copy of the message; what was not received is what the stack holds. They see that lengths
fit into the list, but not that the list is in the message, and take capabilities for the
multiprotocol one that are not. `L2tpns.Bgp.detects_iff` says for which messages they
nevertheless find out whether the peer handles IPv6 routes.
-/

namespace L2tpns.Bgp

open Foundation

variable {server : Server} {peer : Peer} {stack : Nat → UInt8} {result : WriteResult}
  {data : Nat → UInt8} {n : Nat}

/-- The optional parameters of an OPEN. -/
def optParams (data : Nat → UInt8) : ItemList := ⟨data, bgpDataOpenSize, (data 9).toNat⟩

/-- The capabilities in the parameter at offset `p`. -/
def capabilitiesOf (data : Nat → UInt8) (p : Nat) : ItemList :=
  ⟨data, bgpDataOpenSize + p + 2, (optParams data).length p⟩

/-- The AFI of a multiprotocol capability. -/
def afi (items : ItemList) (c : Nat) : Nat := Inbuf.short items.data (items.base + c + 2)

/-- The SAFI of a multiprotocol capability. -/
def safi (items : ItemList) (c : Nat) : Nat := (items.data (items.base + c + 5)).toNat

/-- No capability ends the loop but one that does not fit. -/
def unrefused : Nat → Bool := fun _ => false

def capabilityOffsets (data : Nat → UInt8) (p : Nat) : List Nat :=
  (capabilitiesOf data p).visited unrefused 0

/-- A parameter of a type that is not known, or with a malformed list of capabilities. -/
def refusesParam (data : Nat → UInt8) (p : Nat) : Bool :=
  (optParams data).code p ≠ 2 ∨ ¬ (capabilitiesOf data p).Accepts unrefused 0

def paramOffsets (data : Nat → UInt8) : List Nat :=
  (optParams data).visited (refusesParam data) 0

/-- The message has a list of `opt_len` bytes, in which all parameters and capabilities
fit, and all parameters are capabilities; `n` bytes of data were received. -/
def WellFormedLists (data : Nat → UInt8) (n : Nat) : Prop :=
  bgpDataOpenSize + (optParams data).size ≤ n ∧ (optParams data).Accepts (refusesParam data) 0

instance : Decidable (WellFormedLists data n) := inferInstanceAs (Decidable (_ ∧ _))

def IsIpv6Unicast (items : ItemList) (c : Nat) : Prop :=
  items.code c = 1 ∧ items.length c = 4 ∧ afi items c = 2 ∧ safi items c = 1

instance (items : ItemList) (c : Nat) : Decidable (IsIpv6Unicast items c) :=
  inferInstanceAs (Decidable (_ ∧ _))

def SomeCapability (data : Nat → UInt8) (property : ItemList → Nat → Prop) : Prop :=
  ∃ p ∈ paramOffsets data, ∃ c ∈ capabilityOffsets data p, property (capabilitiesOf data p) c

instance (property : ItemList → Nat → Prop) [∀ items c, Decidable (property items c)] :
    Decidable (SomeCapability data property) :=
  inferInstanceAs (Decidable (∃ _ ∈ _, ∃ _ ∈ _, _))

/-- The length of an item is read if there is room for a header, then its code if the item
fits. -/
def headerReads (items : ItemList) (i : Nat) : List Nat :=
  if 2 ≤ items.size - i then
    (items.base + i + 1) :: if items.Fits i then [items.base + i] else []
  else []

/-- The AFI and the SAFI are read unless the code and the length are both wrong; the SAFI is
not if the AFI is right. -/
def multiprotocolReads (items : ItemList) (c : Nat) : List Nat :=
  if items.code c = 1 ∨ items.length c = 4 then
    (items.base + c + 2) :: (items.base + c + 3) ::
      if afi items c ≠ 2 then [items.base + c + 5] else []
  else []

def capabilityReads (data : Nat → UInt8) (p c : Nat) : List Nat :=
  headerReads (capabilitiesOf data p) c ++
    if (capabilitiesOf data p).Fits c then multiprotocolReads (capabilitiesOf data p) c else []

def paramReads (data : Nat → UInt8) (p : Nat) : List Nat :=
  headerReads (optParams data) p ++
    if (optParams data).Fits p ∧ (optParams data).code p = 2 then
      (capabilityOffsets data p).flatMap (capabilityReads data p)
    else []

/-- The places in the data of an OPEN that are read for optional parameters and
capabilities. -/
def optionReads (data : Nat → UInt8) : List Nat := (paramOffsets data).flatMap (paramReads data)

def Peer.openData (peer : Peer) (stack : Nat → UInt8) : Nat → UInt8 :=
  Bgp.openData peer.inbuf.bytes stack peer.inbuf.len

/-- How many bytes of data the message has. -/
def Peer.received (peer : Peer) : Nat := peer.inbuf.len - bgpHeaderSize

/-- An OPEN that is accepted up to its optional parameters. -/
structure Opens (peer : Peer) (stack : Nat → UInt8) : Prop where
  fits : peer.inbuf.len ≤ bgpMaxPacketSize
  whole : peer.inbuf.len ≤ peer.inbuf.done
  header : bgpHeaderSize ≤ peer.inbuf.len
  isOpen : peer.inbuf.type = bgpMsgOpen
  marked : peer.inbuf.marked = true
  state : peer.state = .openSent
  unknown : peer.mpHandling = .handlingUnknown
  version : (peer.openData stack 0).toNat = bgpVersion
  as : Inbuf.short (peer.openData stack) 1 = peer.as
  hold : 3 ≤ Inbuf.short (peer.openData stack) 3

/-- What is expected of an OPEN: nothing behind the message is read, a malformed list is
answered with a notification, and the peer handles IPv6 routes if and only if it says so. -/
structure Detects (server : Server) (peer : Peer) (stack : Nat → UInt8) (result : WriteResult) :
    Prop where
  reads : ∀ k ∈ optionReads (peer.openData stack), k < peer.received
  refused : ¬ WellFormedLists (peer.openData stack) peer.received →
    ∃ after subcode, bgpHandleInput server peer stack result = some after ∧
      after.outbuf.packet = .notification bgpErrOpen subcode
  detected : WellFormedLists (peer.openData stack) peer.received →
    ∃ after, bgpHandleInput server peer stack result = some after ∧
      after.outbuf.packet = .keepalive ∧
      (after.mpHandling = .handleIpv6Routes ↔
        SomeCapability (peer.openData stack) IsIpv6Unicast) ∧
      (after.mpHandling = .doesntHandleIpv6Routes ↔
        ¬ SomeCapability (peer.openData stack) IsIpv6Unicast)

/-- A capability that the test of the source takes for IPv6 unicast: its code or its length
is right, and so is its AFI or its SAFI. -/
def TakenForIpv6 (items : ItemList) (c : Nat) : Prop :=
  (items.code c = 1 ∨ items.length c = 4) ∧ (afi items c = 2 ∨ safi items c = 1)

instance (items : ItemList) (c : Nat) : Decidable (TakenForIpv6 items c) :=
  inferInstanceAs (Decidable (_ ∧ _))

structure HeadersReceived (data : Nat → UInt8) (n : Nat) : Prop where
  params : ∀ p ∈ paramOffsets data, 2 ≤ (optParams data).size - p → bgpDataOpenSize + p + 2 ≤ n
  capabilities : ∀ p ∈ paramOffsets data, (optParams data).Fits p → (optParams data).code p = 2 →
    ∀ c ∈ capabilityOffsets data p, 2 ≤ (capabilitiesOf data p).size - c →
      (capabilitiesOf data p).base + c + 2 ≤ n

/-- Behind the header of a capability with the code or the length of the multiprotocol one,
the message goes on for two bytes, and for four if the AFI is another one. -/
def MultiprotocolReceived (data : Nat → UInt8) (n p c : Nat) : Prop :=
  (capabilitiesOf data p).Fits c →
    (capabilitiesOf data p).code c = 1 ∨ (capabilitiesOf data p).length c = 4 →
      (capabilitiesOf data p).base + c + 4 ≤ n ∧
        (afi (capabilitiesOf data p) c ≠ 2 → (capabilitiesOf data p).base + c + 6 ≤ n)

instance (p c : Nat) : Decidable (MultiprotocolReceived data n p c) :=
  inferInstanceAs (Decidable (_ → _ → _ ∧ (_ → _)))

/-- The messages for which the loops find out what the peer says. -/
structure Legible (data : Nat → UInt8) (n : Nat) : Prop where
  /-- The list ends in the message, or it is refused before the message ends. -/
  inside : bgpDataOpenSize + (optParams data).size ≤ n ∨
    (¬ (optParams data).Accepts (refusesParam data) 0 ∧ HeadersReceived data n)
  /-- What is looked at of capabilities was received. -/
  multiprotocol : ∀ p ∈ paramOffsets data, (optParams data).Fits p → (optParams data).code p = 2 →
    ∀ c ∈ capabilityOffsets data p, MultiprotocolReceived data n p c
  /-- No other capability is taken for IPv6 unicast, unless there is one. -/
  genuine : WellFormedLists data n → SomeCapability data TakenForIpv6 →
    SomeCapability data IsIpv6Unicast

/-- What a capability that fits does to the handling. -/
def capabilityUpdate (items : ItemList) (handling : MpHandling) (c : Nat) : MpHandling :=
  if TakenForIpv6 items c then .handleIpv6Routes else handling

theorem capabilityUpdate_handles (items : ItemList) (handling : MpHandling) (c : Nat) :
    capabilityUpdate items handling c = .handleIpv6Routes ↔
      handling = .handleIpv6Routes ∨ TakenForIpv6 items c := by
  rw [capabilityUpdate]
  by_cases taken : TakenForIpv6 items c
  · rw [if_pos taken]
    exact ⟨fun _ => .inr taken, fun _ => rfl⟩
  · rw [if_neg taken]
    exact ⟨.inl, fun either => either.resolve_right taken⟩

theorem fits_iff (data : Nat → UInt8) (base size offset : Nat) :
    ItemList.Fits ⟨data, base, size⟩ offset ↔
      ¬ (size - offset < 2 ∨ size - offset - 2 < (data (base + offset + 1)).toNat) := by
  rw [not_or, Nat.not_lt, Nat.not_lt]
  rfl

theorem takenForIpv6_iff (data : Nat → UInt8) (base size offset : Nat) :
    TakenForIpv6 ⟨data, base, size⟩ offset ↔
      ¬ ((data (base + offset)).toNat ≠ 1 ∧ (data (base + offset + 1)).toNat ≠ 4) ∧
      ¬ (Inbuf.short data (base + offset + 2) ≠ 2 ∧ (data (base + offset + 5)).toNat ≠ 1) := by
  rw [← or_iff_not_and_not, ← or_iff_not_and_not]
  rfl

theorem scanCapabilities_walk (base size : Nat) (handling : MpHandling) (offset : Nat) :
    scanCapabilities data base size handling offset =
      ((ItemList.walk ⟨data, base, size⟩ () (fun _ => none) (capabilityUpdate ⟨data, base, size⟩)
        handling offset).1,
      (ItemList.walk ⟨data, base, size⟩ () (fun _ => none) (capabilityUpdate ⟨data, base, size⟩)
        handling offset).2.isNone) := by
  induction handling, offset using scanCapabilities.induct data base size with
  | case1 handling offset inside _ _ unfit =>
      have misfit := mt (fits_iff data base size offset).mp (not_not.mpr unfit)
      rw [scanCapabilities, if_pos inside, if_pos unfit, ItemList.walk_misfit inside misfit]
      rfl
  | case2 handling offset inside _ _ fits other ih =>
      have kept : capabilityUpdate ⟨data, base, size⟩ handling offset = handling :=
        if_neg fun taken => ((takenForIpv6_iff ..).mp taken).1 other
      rw [scanCapabilities, if_pos inside, if_neg fits, if_pos other, ih,
        ItemList.walk_next inside ((fits_iff ..).mpr fits) rfl, kept]
      rfl
  | case3 handling offset inside _ _ fits known other ih =>
      have kept : capabilityUpdate ⟨data, base, size⟩ handling offset = handling :=
        if_neg fun taken => ((takenForIpv6_iff ..).mp taken).2 other
      rw [scanCapabilities, if_pos inside, if_neg fits, if_neg known, if_pos other, ih,
        ItemList.walk_next inside ((fits_iff ..).mpr fits) rfl, kept]
      rfl
  | case4 handling offset inside _ _ fits known right ih =>
      have set : capabilityUpdate ⟨data, base, size⟩ handling offset = .handleIpv6Routes :=
        if_pos ((takenForIpv6_iff ..).mpr ⟨known, right⟩)
      rw [scanCapabilities, if_pos inside, if_neg fits, if_neg known, if_neg right, ih,
        ItemList.walk_next inside ((fits_iff ..).mpr fits) rfl, set]
      rfl
  | case5 handling offset finished =>
      rw [scanCapabilities, if_neg finished, ItemList.walk_end finished]
      rfl

variable {items : ItemList} {c : Nat} (p : Nat) (handling : MpHandling)

theorem scanCapabilities_accepts :
    (scanCapabilities data (bgpDataOpenSize + p + 2) ((optParams data).length p) handling 0).2 =
      true ↔ (capabilitiesOf data p).Accepts unrefused 0 := by
  rw [scanCapabilities_walk, Option.isNone_iff_eq_none]
  exact ItemList.walk_accepts

theorem scanCapabilities_handles :
    (scanCapabilities data (bgpDataOpenSize + p + 2) ((optParams data).length p) handling 0).1 =
      .handleIpv6Routes ↔
        handling = .handleIpv6Routes ∨ ∃ c ∈ capabilityOffsets data p,
          (capabilitiesOf data p).Fits c ∧ TakenForIpv6 (capabilitiesOf data p) c := by
  rw [scanCapabilities_walk]
  exact ItemList.walk_flag (· = MpHandling.handleIpv6Routes) (capabilityUpdate_handles _)

/-- Why a parameter that fits ends the loop. -/
def paramRefusal (data : Nat → UInt8) (p : Nat) : Option Nat :=
  if (optParams data).code p ≠ 2 then some bgpErrOpnUnsupParam
  else if (capabilitiesOf data p).Accepts unrefused 0 then none
  else some bgpErrUnspec

/-- What a parameter that fits does to the handling. -/
def paramUpdate (data : Nat → UInt8) (handling : MpHandling) (p : Nat) : MpHandling :=
  if (optParams data).code p ≠ 2 then handling
  else
    (scanCapabilities data (bgpDataOpenSize + p + 2) ((optParams data).length p) handling 0).1

theorem refuses_paramRefusal : ItemList.refuses (paramRefusal data) = refusesParam data := by
  funext p
  rw [ItemList.refuses, paramRefusal, refusesParam]
  by_cases unknown : (optParams data).code p ≠ 2
  · rw [if_pos unknown, decide_eq_true (.inl unknown)]
    rfl
  by_cases accepted : (capabilitiesOf data p).Accepts unrefused 0
  · rw [if_neg unknown, if_pos accepted, decide_eq_false (by simp [unknown, accepted])]
    rfl
  · rw [if_neg unknown, if_neg accepted, decide_eq_true (.inr accepted)]
    rfl

theorem scanParams_walk (offset : Nat) :
    scanParams data (data 9).toNat handling offset =
      (optParams data).walk bgpErrUnspec (paramRefusal data) (paramUpdate data) handling
        offset := by
  induction handling, offset using scanParams.induct data (data 9).toNat with
  | case1 handling offset inside _ _ unfit =>
      have misfit := mt (fits_iff data bgpDataOpenSize (data 9).toNat offset).mp (not_not.mpr unfit)
      rw [scanParams, if_pos inside, if_pos unfit]
      exact (ItemList.walk_misfit inside misfit).symm
  | case2 handling offset inside _ _ fits unknown =>
      have room : (optParams data).Fits offset := (fits_iff ..).mpr fits
      have refused : paramRefusal data offset = some bgpErrOpnUnsupParam := if_pos unknown
      have kept : paramUpdate data handling offset = handling := if_pos unknown
      rw [scanParams, if_pos inside, if_neg fits, if_pos unknown,
        ItemList.walk_refused (i := offset) inside room refused, kept]
  | case3 handling offset inside _ _ fits known scanned accepted ih =>
      have room : (optParams data).Fits offset := (fits_iff ..).mpr fits
      have read : (capabilitiesOf data offset).Accepts unrefused 0 :=
        (scanCapabilities_accepts offset handling).mp accepted
      have goesOn : paramRefusal data offset = none := (if_neg known).trans (if_pos read)
      have set : paramUpdate data handling offset = scanned.1 := if_neg known
      rw [scanParams, if_pos inside, if_neg fits, if_neg known,
        ItemList.walk_next (i := offset) inside room goesOn, set]
      exact (if_pos accepted).trans ih
  | case4 handling offset inside _ _ fits known scanned malformed =>
      have room : (optParams data).Fits offset := (fits_iff ..).mpr fits
      have unread : ¬ (capabilitiesOf data offset).Accepts unrefused 0 :=
        mt (scanCapabilities_accepts offset handling).mpr malformed
      have refused : paramRefusal data offset = some bgpErrUnspec :=
        (if_neg known).trans (if_neg unread)
      have set : paramUpdate data handling offset = scanned.1 := if_neg known
      rw [scanParams, if_pos inside, if_neg fits, if_neg known,
        ItemList.walk_refused (i := offset) inside room refused, set]
      exact if_neg malformed
  | case5 handling offset finished =>
      rw [scanParams, if_neg finished]
      exact (ItemList.walk_end finished).symm

theorem scanParams_accepts :
    (scanParams data (data 9).toNat handling 0).2 = none ↔
    (optParams data).Accepts (refusesParam data) 0 := by
  rw [scanParams_walk, ItemList.walk_accepts, refuses_paramRefusal]

theorem paramUpdate_handles (p : Nat) :
    paramUpdate data handling p = .handleIpv6Routes ↔
      handling = .handleIpv6Routes ∨ ((optParams data).code p = 2 ∧
        ∃ c ∈ capabilityOffsets data p,
          (capabilitiesOf data p).Fits c ∧ TakenForIpv6 (capabilitiesOf data p) c) := by
  rw [paramUpdate]
  by_cases unknown : (optParams data).code p ≠ 2
  · rw [if_pos unknown]
    exact ⟨.inl, fun either => either.resolve_right fun taken => unknown taken.1⟩
  · rw [if_neg unknown, scanCapabilities_handles, and_iff_right (not_not.mp unknown)]

theorem refusesParam_eq_false {p : Nat} : refusesParam data p = false ↔
    (optParams data).code p = 2 ∧ (capabilitiesOf data p).Accepts unrefused 0 := by
  rw [refusesParam, decide_eq_false_iff_not, not_or, not_not, not_not]

theorem scanParams_handles (accepted : (optParams data).Accepts (refusesParam data) 0) :
    (scanParams data (data 9).toNat .handlingUnknown 0).1 = .handleIpv6Routes ↔
      SomeCapability data TakenForIpv6 := by
  rw [scanParams_walk, ItemList.walk_flag (· = MpHandling.handleIpv6Routes) paramUpdate_handles,
    refuses_paramRefusal, or_iff_right nofun]
  constructor
  · rintro ⟨p, visited, -, -, c, come, -, taken⟩
    exact ⟨p, visited, c, come, taken⟩
  · rintro ⟨p, visited, c, come, taken⟩
    obtain ⟨fits, goesOn⟩ := accepted p visited
    obtain ⟨known, read⟩ := refusesParam_eq_false.mp goesOn
    exact ⟨p, visited, fits, known, c, come, (read c come).1, taken⟩

theorem headerReads_inside {i : Nat} :
    (∀ k ∈ headerReads items i, k < n) ↔ (2 ≤ items.size - i → items.base + i + 2 ≤ n) := by
  rw [headerReads]
  by_cases room : 2 ≤ items.size - i
  · rw [if_pos room, List.forall_mem_cons, forall_prop_of_true room]
    refine ⟨And.left, fun length => ⟨length, fun k member => ?_⟩⟩
    by_cases fits : items.Fits i
    · rw [if_pos fits, List.mem_singleton] at member
      omega
    · rw [if_neg fits] at member
      exact nomatch member
  · rw [if_neg room]
    exact ⟨fun _ some => absurd some room, fun _ => nofun⟩

theorem multiprotocolReads_inside :
    (∀ k ∈ multiprotocolReads items c, k < n) ↔ (items.code c = 1 ∨ items.length c = 4 →
      items.base + c + 4 ≤ n ∧ (afi items c ≠ 2 → items.base + c + 6 ≤ n)) := by
  rw [multiprotocolReads]
  by_cases known : items.code c = 1 ∨ items.length c = 4
  · rw [if_pos known, forall_prop_of_true known, List.forall_mem_cons, List.forall_mem_cons]
    by_cases other : afi items c ≠ 2
    · rw [if_pos other, forall_prop_of_true other, List.forall_mem_singleton]
      omega
    · rw [if_neg other]
      simp only [List.not_mem_nil, false_implies, implies_true, other, and_true]
      omega
  · rw [if_neg known]
    exact ⟨fun _ some => absurd some known, fun _ => nofun⟩

theorem capabilityReads_inside {p : Nat} : (∀ k ∈ capabilityReads data p c, k < n) ↔
    (2 ≤ (capabilitiesOf data p).size - c → (capabilitiesOf data p).base + c + 2 ≤ n) ∧
      MultiprotocolReceived data n p c := by
  rw [capabilityReads, List.forall_mem_append, headerReads_inside, MultiprotocolReceived]
  refine and_congr_right fun _ => ?_
  by_cases fits : (capabilitiesOf data p).Fits c
  · rw [if_pos fits, multiprotocolReads_inside, forall_prop_of_true fits]
  · rw [if_neg fits]
    exact ⟨fun _ some => absurd some fits, fun _ => nofun⟩

theorem paramReads_inside {p : Nat} : (∀ k ∈ paramReads data p, k < n) ↔
    (2 ≤ (optParams data).size - p → bgpDataOpenSize + p + 2 ≤ n) ∧
      ((optParams data).Fits p → (optParams data).code p = 2 → ∀ c ∈ capabilityOffsets data p,
        (2 ≤ (capabilitiesOf data p).size - c → (capabilitiesOf data p).base + c + 2 ≤ n) ∧
          MultiprotocolReceived data n p c) := by
  rw [paramReads, List.forall_mem_append, headerReads_inside]
  refine and_congr_right fun _ => ?_
  by_cases known : (optParams data).Fits p ∧ (optParams data).code p = 2
  · rw [if_pos known, List.forall_mem_flatMap, forall_prop_of_true known.1,
      forall_prop_of_true known.2]
    exact forall₂_congr fun c _ => capabilityReads_inside
  · rw [if_neg known]
    exact ⟨fun _ fits two => absurd ⟨fits, two⟩ known, fun _ => nofun⟩

/-- Nothing behind the data is read if the headers and what is looked at of the multiprotocol
capabilities were received. -/
theorem optionReads_inside : (∀ k ∈ optionReads data, k < n) ↔
    HeadersReceived data n ∧ ∀ p ∈ paramOffsets data, (optParams data).Fits p →
      (optParams data).code p = 2 → ∀ c ∈ capabilityOffsets data p,
        MultiprotocolReceived data n p c := by
  rw [optionReads, List.forall_mem_flatMap]
  constructor
  · intro inside
    have each := fun p visited => paramReads_inside.mp (inside p visited)
    exact ⟨⟨fun p visited => (each p visited).1,
      fun p visited fits known c come => ((each p visited).2 fits known c come).1⟩,
      fun p visited fits known c come => ((each p visited).2 fits known c come).2⟩
  · rintro ⟨headers, multiprotocol⟩ p visited
    exact paramReads_inside.mpr ⟨headers.params p visited, fun fits known c come =>
      ⟨headers.capabilities p visited fits known c come,
        multiprotocol p visited fits known c come⟩⟩

theorem headersReceived_of_inside (inside : bgpDataOpenSize + (optParams data).size ≤ n) :
    HeadersReceived data n where
  params p visited room := by
    have before := ItemList.visited_inside visited
    omega
  capabilities p visited fits _ c come room := by
    have before := ItemList.visited_inside visited
    obtain ⟨_, value⟩ := fits
    have base : (capabilitiesOf data p).base = bgpDataOpenSize + p + 2 := rfl
    have size : (capabilitiesOf data p).size = (optParams data).length p := rfl
    omega

theorem bgpClear_answer : (bgpClear server peer).outbuf.packet = peer.outbuf.packet ∧
    (bgpClear server peer).mpHandling = peer.mpHandling := by
  rw [bgpClear]
  split <;> exact ⟨rfl, rfl⟩

theorem bgpSetRetry_answer : (bgpSetRetry server peer).outbuf.packet = peer.outbuf.packet ∧
    (bgpSetRetry server peer).mpHandling = peer.mpHandling := by
  rw [bgpSetRetry]
  split <;> exact bgpClear_answer

theorem bgpWrite_answer : (bgpWrite server peer result).1.outbuf.packet = peer.outbuf.packet ∧
    (bgpWrite server peer result).1.mpHandling = peer.mpHandling := by
  cases result with
  | again => exact ⟨rfl, rfl⟩
  | failed => exact bgpSetRetry_answer
  | wrote count =>
      rw [bgpWrite]
      dsimp only
      split_ifs
      all_goals first
        | exact ⟨rfl, rfl⟩
        | exact bgpClear_answer

theorem bgpHandleInput_opens (opens : Opens peer stack) :
    bgpHandleInput server peer stack result =
      (negotiate server peer (peer.openData stack) result).after server peer.inbuf.len := by
  have data : Bgp.openData peer.inbuf.bytes stack peer.inbuf.len = peer.openData stack := rfl
  rw [bgpHandleInput_received opens.fits opens.whole, handleMessage, if_pos opens.isOpen,
    handleOpen]
  dsimp only
  rw [if_neg (not_not.mpr opens.marked), if_neg (not_not.mpr opens.state),
    if_neg (Nat.not_lt.mpr opens.header), data, if_neg (not_not.mpr opens.version),
    if_neg (not_not.mpr opens.as), if_neg (Nat.not_lt.mpr opens.hold)]

theorem bgpHandleInput_refuses (opens : Opens peer stack)
    (refused : ¬ (optParams (peer.openData stack)).Accepts (refusesParam (peer.openData stack)) 0) :
    ∃ after subcode, bgpHandleInput server peer stack result = some after ∧
      after.outbuf.packet = .notification bgpErrOpen subcode := by
  rw [bgpHandleInput_opens opens]
  have scanned := mt (scanParams_accepts peer.mpHandling).mp refused
  obtain ⟨subcode, reason⟩ := Option.ne_none_iff_exists'.mp scanned
  simp only [negotiate, reason]
  exact ⟨_, subcode, rfl, bgpWrite_answer.1⟩

theorem bgpHandleInput_accepts (opens : Opens peer stack)
    (accepted : (optParams (peer.openData stack)).Accepts (refusesParam (peer.openData stack)) 0) :
    ∃ after, bgpHandleInput server peer stack result = some after ∧
      after.outbuf.packet = .keepalive ∧
      (after.mpHandling = .handleIpv6Routes ↔
        SomeCapability (peer.openData stack) TakenForIpv6) ∧
      (after.mpHandling = .doesntHandleIpv6Routes ↔
        ¬ SomeCapability (peer.openData stack) TakenForIpv6) := by
  rw [bgpHandleInput_opens opens, ← scanParams_handles accepted, ← opens.unknown]
  have scanned := (scanParams_accepts peer.mpHandling).mpr accepted
  simp only [negotiate, scanned]
  refine ⟨_, rfl, bgpWrite_answer.1, ?_⟩
  dsimp only [bgpSendKeepalive]
  rw [bgpWrite_answer.2]
  generalize (scanParams (peer.openData stack) (peer.openData stack 9).toNat peer.mpHandling 0).1 =
    handling
  cases handling <;> simp

theorem takenForIpv6_of_isIpv6Unicast (is : IsIpv6Unicast items c) : TakenForIpv6 items c :=
  ⟨.inl is.1, .inl is.2.2.1⟩

theorem SomeCapability.mono {property other : ItemList → Nat → Prop}
    (implies : ∀ items c, property items c → other items c)
    (some : SomeCapability data property) : SomeCapability data other := by
  obtain ⟨p, visited, c, come, holds⟩ := some
  exact ⟨p, visited, c, come, implies _ c holds⟩

theorem Detects.legible (opens : Opens peer stack) (detects : Detects server peer stack result) :
    Legible (peer.openData stack) peer.received := by
  obtain ⟨headers, multiprotocol⟩ := optionReads_inside.mp detects.reads
  refine ⟨?_, multiprotocol, fun wellFormed taken => ?_⟩
  · by_cases inside : bgpDataOpenSize + (optParams (peer.openData stack)).size ≤ peer.received
    · exact .inl inside
    refine .inr ⟨fun accepted => ?_, headers⟩
    -- an accepted list that goes on behind the message gets a keepalive
    obtain ⟨after, subcode, handled, notified⟩ :=
      detects.refused fun wellFormed => inside wellFormed.1
    obtain ⟨other, same, kept, -⟩ :=
      @bgpHandleInput_accepts server peer stack result opens accepted
    rw [handled] at same
    rw [← Option.some.inj same, notified] at kept
    exact nomatch kept
  · obtain ⟨after, handled, -, handles, -⟩ := detects.detected wellFormed
    obtain ⟨other, same, -, takes, -⟩ :=
      @bgpHandleInput_accepts server peer stack result opens wellFormed.2
    rw [handled] at same
    rw [← Option.some.inj same] at takes
    exact handles.mp (takes.mpr taken)

theorem Legible.detects (opens : Opens peer stack)
    (legible : Legible (peer.openData stack) peer.received) :
    Detects server peer stack result where
  reads := by
    refine optionReads_inside.mpr ⟨?_, legible.multiprotocol⟩
    rcases legible.inside with inside | ⟨-, headers⟩
    · exact headersReceived_of_inside inside
    · exact headers
  refused malformed := by
    refine bgpHandleInput_refuses opens fun accepted => malformed ⟨?_, accepted⟩
    exact legible.inside.resolve_right fun refused => refused.1 accepted
  detected wellFormed := by
    obtain ⟨after, handled, kept, handles, ignores⟩ :=
      @bgpHandleInput_accepts server peer stack result opens wellFormed.2
    have same : SomeCapability (peer.openData stack) TakenForIpv6 ↔
        SomeCapability (peer.openData stack) IsIpv6Unicast :=
      ⟨legible.genuine wellFormed, .mono fun _ _ => takenForIpv6_of_isIpv6Unicast⟩
    rw [same] at handles ignores
    exact ⟨after, handled, kept, handles, ignores⟩

/-- **The loops find out what the peer says** exactly for the legible messages. -/
theorem detects_iff (server : Server) (result : WriteResult) (opens : Opens peer stack) :
    Detects server peer stack result ↔ Legible (peer.openData stack) peer.received :=
  ⟨Detects.legible opens, Legible.detects opens⟩

/-- A peer that announces unicast for one address family: its OPEN has the multiprotocol
capability and no other. -/
def unicastPeer (family : UInt8) : Peer :=
  { Peer.zero with
    as := 64512
    state := .openSent
    nextState := .openSent
    hold := 180
    keepalive := 60
    inbuf :=
      ⟨fun i => (List.replicate 16 0xff ++ [0, 37, 1] ++ [4, 0xfc, 0, 0, 180, 10, 0, 0, 2] ++
        [8, 2, 6, 1, 4, 0, family, 0, 1]).getD i 0, 37⟩ }

theorem unicastPeer_opens : Opens (unicastPeer 1) (fun _ => 0) ∧
    Opens (unicastPeer 2) (fun _ => 0) := by
  constructor <;> constructor <;> decide

theorem ipv6Unicast_detected :
    Detects ⟨0, 64512, 0, true⟩ (unicastPeer 2) (fun _ => 0) (.wrote 19) := by
  refine (detects_iff _ _ unicastPeer_opens.2).mpr ⟨.inl ?_, ?_, fun _ _ => ?_⟩ <;>
    decide +kernel

/-- Unicast for IPv4 is taken for unicast for IPv6. -/
theorem ipv4Unicast_taken : Opens (unicastPeer 1) (fun _ => 0) ∧
    ¬ Detects ⟨0, 64512, 0, true⟩ (unicastPeer 1) (fun _ => 0) (.wrote 19) := by
  refine ⟨unicastPeer_opens.1, fun detects => ?_⟩
  have legible := detects.legible unicastPeer_opens.1
  obtain ⟨wellFormed, taken, none⟩ :
      WellFormedLists ((unicastPeer 1).openData fun _ => 0) (unicastPeer 1).received ∧
      SomeCapability ((unicastPeer 1).openData fun _ => 0) TakenForIpv6 ∧
      ¬ SomeCapability ((unicastPeer 1).openData fun _ => 0) IsIpv6Unicast := by
    decide +kernel
  exact none (legible.genuine wellFormed taken)

end L2tpns.Bgp
