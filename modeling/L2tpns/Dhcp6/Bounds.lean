import L2tpns.Dhcp6.Binding

/-! # DHCPv6 messages inside their bounds

The loop over the options of a message ends where the IPv6 header says that the packet ends, and
looks at no length that was received; what is compared or copied later is as long as an option
says. An answer is as long as the client, the prefixes and the codes that were asked for make it.
Handling a message stays inside of the packet received and of the buffer of the answer exactly if
both let it (`L2tpns.Dhcp6.dhcpv6_bounded_iff`).
-/

namespace L2tpns.Dhcp6

open Foundation
open Avp (Memory ntohs readBytes readBytes_length writeBytes)
open Encap (bytes16_length bytes32_length)
open L2tp (setupHeader_length)
open Server (bytes16 bytes32 maxEther tunnelIdPppoe)

variable {config : Config} {line : Line} {session : Session} {p : Memory} {l n : Nat}
  {options : TagList} {type : UInt8} {found : InOption} {rapid : Bool}

def lastOption (p : Memory) (code : Nat) : Option Nat :=
  TagList.latest (fun n => (optionsOf p).type n = code) ((optionsOf p).visited 0)

/-- The headers of all options are inside of a packet of `l` bytes. -/
def HeadersInside (p : Memory) (l : Nat) : Prop := ∀ n ∈ (optionsOf p).visited 0, 52 + n + 4 ≤ l

instance (p : Memory) (l : Nat) : Decidable (HeadersInside p l) :=
  inferInstanceAs (Decidable (∀ n ∈ _, _))

theorem set_eq (found : InOption) (code n : Nat) :
    found.set code n =
      ⟨if code = optClientId then some n else found.clientid,
        if code = optServerId then some n else found.serverid,
        if code = optIaNa then some n else found.iaNa,
        if code = optIaTa then some n else found.iaTa,
        if code = optIaPd then some n else found.iaPd,
        if code = optOro then some n else found.oro,
        if code = optRapidCommit then some n else found.rapidcommit,
        found.inside⟩ := by
  unfold InOption.set optClientId optServerId optRapidCommit optIaNa optIaTa optOro optIaPd
  split_ifs <;> first | rfl | omega

/-- The last option of each kind. -/
def lastOptions (p : Memory) : InOption :=
  ⟨lastOption p optClientId, lastOption p optServerId, lastOption p optIaNa, lastOption p optIaTa,
    lastOption p optIaPd, lastOption p optOro, lastOption p optRapidCommit, true⟩

/-- **What the loop notes** are the last options of their kinds. -/
theorem foundIn_eq (p : Memory) (l : Nat) :
    foundIn p l = { lastOptions p with inside := HeadersInside p l } := by
  rw [foundIn, TagList.walk_eq, lastOptions]
  have last (field : InOption → Option Nat) (code : Nat)
      (sets : ∀ found n, field (noteOption (optionsOf p) l found n) =
        if decide ((optionsOf p).type n = code) then some n else field found)
      (free : field .initial = none) :
      field (((optionsOf p).visited 0).foldl (noteOption (optionsOf p) l) .initial) =
        lastOption p code := by
    rw [TagList.foldl_latest field sets, free, Option.or_none]
    rfl
  have sets (found : InOption) (n : Nat) := set_eq found ((optionsOf p).type n) n
  have inside : (((optionsOf p).visited 0).foldl (noteOption (optionsOf p) l) .initial).inside ↔
      InOption.initial.inside ∧ HeadersInside p l := by
    apply TagList.foldl_all (fun found : InOption => (found.inside : Prop))
    intro found n _
    simp [noteOption, optionsOf]
  have flag : (((optionsOf p).visited 0).foldl (noteOption (optionsOf p) l) .initial).inside =
      decide (HeadersInside p l) := by
    rw [Bool.eq_iff_iff, inside, decide_eq_true_iff]
    simp [InOption.initial]
  have clientid := last InOption.clientid optClientId (by simp [noteOption, sets]) rfl
  have serverid := last InOption.serverid optServerId (by simp [noteOption, sets]) rfl
  have iaNa := last InOption.iaNa optIaNa (by simp [noteOption, sets]) rfl
  have iaTa := last InOption.iaTa optIaTa (by simp [noteOption, sets]) rfl
  have iaPd := last InOption.iaPd optIaPd (by simp [noteOption, sets]) rfl
  have oro := last InOption.oro optOro (by simp [noteOption, sets]) rfl
  have rapidcommit := last InOption.rapidcommit optRapidCommit (by simp [noteOption, sets]) rfl
  generalize ((optionsOf p).visited 0).foldl (noteOption (optionsOf p) l) .initial = all at *
  cases all
  simp_all only

/-- The bytes of the option with the name servers. -/
def dnsSize (config : Config) : Nat :=
  if leading config.defaultIpv6Dns1 = 0 then 0
  else if leading config.defaultIpv6Dns2 = 0 then 20 else 36

/-- The bytes of the option with the search name. -/
def domainSize (config : Config) : Nat :=
  (dhcpv6FormatDnsSearchName config.defaultIpv6DomainList).elim 0 fun encoded =>
    if 0 < encoded.1 then 4 + encoded.1 else 0

/-- The bytes of the answers to the associations. -/
def associationsSize (session : Session) (options : TagList) (type : UInt8) (found : InOption) :
    Nat :=
  (found.iaPd.elim 0 fun n =>
      if type = renew ∧ session.dhcpv6PrefixIaid ≠ iaid options n then 22
      else 16 + 29 * session.prefixes.length) +
    (found.iaNa.elim 0 fun n =>
      if type = renew ∧ session.dhcpv6IanaIaid ≠ iaid options n then 22 else 44) +
    found.iaTa.elim 0 fun _ => 14

/-- The bytes of the answers to the codes that are asked for. -/
def demandsSize (config : Config) (codes : List Nat) : Nat :=
  codes.count optDnsServers * dnsSize config + codes.count optDomainList * domainSize config

/-- The bytes of an answer from its IPv6 header on. -/
def answerSize (config : Config) (session : Session) (options : TagList) (type : UInt8)
    (found : InOption) : Nat :=
  48 + (4 + (12 + (found.clientid.elim 0 fun n => 4 + options.length n) +
    (if type = informationRequest then 0 else associationsSize session options type found) +
    (found.oro.elim 0 fun n => demandsSize config (demands options n)) +
    (if found.rapidcommit.isSome ∧ type = solicit then 4 else 0) + 5))

/-- The bytes of the header of a frame in front of an answer. -/
def headerSize (line : Line) : Nat :=
  if line.t = tunnelIdPppoe then 22
  else
    6 + (if line.encap.flags line.s &&& Encap.sessionAcfc = 0 then 2 else 0) +
      if line.encap.flags line.s &&& Encap.sessionPfc ≠ 0 then 1 else 2

@[simp] theorem iaid_length (options : TagList) (n : Nat) : (iaid options n).length = 4 :=
  readBytes_length _ _ _

@[simp] theorem optionBytes_length (options : TagList) (n : Nat) :
    (optionBytes options n).length = 4 + options.length n :=
  readBytes_length _ _ _

@[simp] theorem localServerid_length : (localServerid config).length = 12 := by
  simp [localServerid]

@[simp] theorem lifetime_length (configured part : UInt32) :
    (lifetime configured part).length = 4 := by
  rw [lifetime]
  split_ifs <;> simp

@[simp] theorem iaHead_length (code len : Nat) (options : TagList) (n : Nat) :
    (iaHead config code len (iaid options n)).length = 16 := by
  simp [iaHead]

@[simp] theorem statusOption_length (code : Nat) : (statusOption code).length = 6 := by
  simp [statusOption]

@[simp] theorem iaPrefixOption_length (route : Route6) :
    (iaPrefixOption config route).length = 29 := by
  simp [iaPrefixOption]

@[simp] theorem address_length : (session.address config).length = 16 := by
  rw [Session.address]
  split_ifs <;> simp

theorem iaPdAnswer_length (n : Nat) :
    (iaPdAnswer config session type rapid (iaid options n)).2.length =
      if type = renew ∧ session.dhcpv6PrefixIaid ≠ iaid options n then 22
      else 16 + 29 * session.prefixes.length := by
  rw [iaPdAnswer]
  split_ifs <;> simp [List.length_flatMap, Nat.mul_comm]

theorem iaNaAnswer_length (n : Nat) :
    (iaNaAnswer config session type rapid (iaid options n)).2.length =
      if type = renew ∧ session.dhcpv6IanaIaid ≠ iaid options n then 22 else 44 := by
  rw [iaNaAnswer]
  split_ifs <;> simp [iaAddrOption]

theorem dnsOption_length : (dnsOption config).length = dnsSize config := by
  rw [dnsOption, dnsSize]
  split_ifs <;> simp

theorem domainOption_length : (domainOption config).length = domainSize config := by
  rw [domainOption, domainSize]
  cases formats : dhcpv6FormatDnsSearchName config.defaultIpv6DomainList with
  | none => rfl
  | some encoded =>
      obtain ⟨len, buffer⟩ := encoded
      simp only [Option.elim_some]
      by_cases accepted : 0 < len
      · obtain ⟨length, -⟩ := searchName_length formats accepted
        simp only [accepted, if_true, List.length_append, bytes16_length, List.length_take, length]
        omega
      · simp [accepted]

theorem demanded_length (codes : List Nat) :
    (codes.flatMap (demanded config)).length = demandsSize config codes := by
  induction codes with
  | nil => simp [demandsSize]
  | cons code codes ih =>
      have other : optDnsServers ≠ optDomainList := by decide
      rw [List.flatMap_cons, List.length_append, ih]
      simp only [demanded, demandsSize, List.count_cons, List.length_append, beq_iff_eq]
      split_ifs with dns domain
      · exact absurd (dns.symm.trans domain) other
      · simp only [dnsOption_length, List.length_nil]
        ring
      · simp only [domainOption_length, List.length_nil]
        ring
      · simp

theorem replyOptions_length :
    (replyOptions config session options type found).2.length =
      12 + (found.clientid.elim 0 fun n => 4 + options.length n) +
        (if type = informationRequest then 0 else associationsSize session options type found) +
        (found.oro.elim 0 fun n => demandsSize config (demands options n)) +
        (if found.rapidcommit.isSome ∧ type = solicit then 4 else 0) + 5 := by
  have client : (found.clientid.elim [] (optionBytes options)).length =
      found.clientid.elim 0 fun n => 4 + options.length n := by
    cases found.clientid <;> simp
  have oro : (found.oro.elim [] fun n => (demands options n).flatMap (demanded config)).length =
      found.oro.elim 0 fun n => demandsSize config (demands options n) := by
    cases found.oro with
    | none => rfl
    | some n => exact demanded_length _
  have rapid : (if found.rapidcommit.isSome ∧ type = solicit then
      bytes16 optRapidCommit ++ bytes16 0 else []).length =
        if found.rapidcommit.isSome ∧ type = solicit then 4 else 0 := by
    split_ifs <;> simp
  simp only [replyOptions, List.length_append, client, oro, rapid, localServerid_length]
  by_cases information : type = informationRequest
  · simp only [information, ne_eq, not_true_eq_false, if_false, if_true]
    cases found.iaPd <;> cases found.iaNa <;> cases found.iaTa <;> simp
  · have ta (n : Nat) : (iaTaAnswer (iaid options n)).length = 14 := by simp [iaTaAnswer]
    simp only [ne_eq, information, not_false_eq_true, if_true, if_false, associationsSize]
    cases found.iaPd <;> cases found.iaNa <;> cases found.iaTa <;>
      simp [iaPdAnswer_length, iaNaAnswer_length, iaPdAnswer_session, ta, Nat.add_assoc]

/-- **The size of an answer.** -/
theorem dhcp6SendReply_length {packet : List UInt8}
    (answered : packet ∈ (dhcp6SendReply config line session p l found).answer) :
    packet.length = answerSize config session (optionsOf p) (p 48) found := by
  obtain rfl := Option.some_inj.mp answered
  have headers (payload : List UInt8) :
      (udpPacket replySource.toList (readBytes p 8 16) 547 546 payload).length =
        48 + payload.length := by
    simp [udpPacket, ip6Header, readBytes_length]
    omega
  rw [headers, answerSize, List.length_append, List.length_cons, readBytes_length,
    replyOptions_length]

/-- The header in front of an answer is always made. -/
theorem replyFrame (line : Line) :
    (Encap.makeppp line.encap (fun _ => 0) 0 (maxEther + 20) none 0 line.s line.t 0x57 false 0
      0).frame = some (headerSize line) := by
  obtain ⟨start, made⟩ := @Encap.makeppp_made line.encap (fun _ => 0) 0 (maxEther + 20) 0 line.s
    line.t 0x57 0 false 0 none (by decide) (.inl (by decide))
  rw [made, Option.some_inj, headerSize]
  by_cases pppoe : line.t = tunnelIdPppoe
  · rw [Encap.makeppp, if_pos pppoe, pppoe] at made
    rw [if_pos pppoe, (Encap.pppoeMakeppp_header made).1, Encap.pppoeBytes_single]
  · have single : line.encap.isFragment 0 = false := by simp [Encap.State.isFragment]
    have other : ¬ 0x57 = Server.pppLcp := by decide
    rw [if_neg pppoe, (Encap.makeppp_header pppoe made).1]
    simp only [Encap.State.l2tpBytes, Encap.State.messageType, Encap.State.hdlcField,
      Encap.State.protocolField, Encap.State.mpField, Encap.State.beginField, single]
    split_ifs <;> simp_all [L2tp.hdlcHeader]

/-- What is read is inside of the packet received, and the answer of its buffer. -/
structure Handled.Bounded (handled : Handled) : Prop where
  inside : handled.inside
  fits : handled.fits

theorem unanswered_bounded (inside : Bool) :
    (unanswered session inside).Bounded ↔ inside := by
  exact ⟨Handled.Bounded.inside, fun sound => ⟨sound, rfl⟩⟩

theorem after_bounded (handled : Handled) (inside : Bool) :
    (handled.after inside).Bounded ↔ inside ∧ handled.Bounded := by
  constructor
  · rintro ⟨both, fits⟩
    rw [Handled.after, Bool.and_eq_true] at both
    exact ⟨both.1, both.2, fits⟩
  · rintro ⟨before, inside, fits⟩
    refine ⟨?_, fits⟩
    rw [Handled.after, Bool.and_eq_true]
    exact ⟨before, inside⟩

/-- An answer can be given inside of the bounds. -/
def ReplySound (config : Config) (line : Line) (session : Session) (p : Memory) (l : Nat)
    (found : InOption) : Prop :=
  ReplyReads (optionsOf p) l (p 48) found ∧
    headerSize line + answerSize config session (optionsOf p) (p 48) found ≤ maxEther + 20

theorem dhcp6SendReply_bounded :
    (dhcp6SendReply config line session p l found).Bounded ↔
      ReplySound config line session p l found := by
  have fits : (dhcp6SendReply config line session p l found).fits ↔
      headerSize line + answerSize config session (optionsOf p) (p 48) found ≤ maxEther + 20 := by
    rw [← @dhcp6SendReply_length config line session p l found _ rfl]
    simp only [dhcp6SendReply, replyFrame, Option.any_some, decide_eq_true_iff]
  constructor
  · rintro ⟨inside, fitting⟩
    exact ⟨of_decide_eq_true inside, fits.mp fitting⟩
  · rintro ⟨reads, small⟩
    exact ⟨decide_eq_true reads, fits.mpr small⟩

/-- The client is read whole if its length is that of the recorded one. -/
def CompareReads (session : Session) (options : TagList) (l n : Nat) : Prop :=
  ntohs session.dhcpv6ClientId 2 = options.length n → Whole options l n

/-- The client is read whole if it is compared or recorded. -/
def ClaimReads (session : Session) (options : TagList) (l n : Nat) : Prop :=
  if session.hasClient then CompareReads session options l n
  else 0 < options.length n ∧ options.length n ≤ duidSize → Whole options l n

/-- The client is the recorded one, or can be recorded. -/
def Claimable (session : Session) (options : TagList) (n : Nat) : Prop :=
  if session.hasClient then sameClient session options n
  else 0 < options.length n ∧ options.length n ≤ duidSize

theorem claimClient_eq (n : Nat) :
    ((claimClient session options l n).accepted ↔ Claimable session options n) ∧
      ((claimClient session options l n).inside ↔ ClaimReads session options l n) := by
  rw [claimClient, Claimable, ClaimReads]
  by_cases known : session.hasClient
  · simp [known, compareClient, CompareReads, imp_iff_not_or]
  · by_cases small : 0 < options.length n ∧ options.length n ≤ duidSize
    · simp [known, small]
    · simp [known, small]

theorem claimClient_sound {n k : Nat} :
    ReplySound config line (claimClient session options k n).session p l found ↔
      ReplySound config line session p l found := by
  rw [(@claimClient_session session k options n).2]
  rfl

/-- The identifier of the server is read whole if it has the length of ours. -/
def ServerReads (options : TagList) (l n : Nat) : Prop := options.length n = 8 → Whole options l n

def SolicitSound (config : Config) (line : Line) (session : Session) (p : Memory) (l : Nat)
    (found : InOption) : Prop :=
  let options := optionsOf p
  ∀ n ∈ found.clientid,
    (found.rapidcommit.isSome → ClaimReads session options l n) ∧
      ((found.rapidcommit.isSome → Claimable session options n) → found.serverid = none →
        ReplySound config line session p l found)

def RequestSound (config : Config) (line : Line) (session : Session) (p : Memory) (l : Nat)
    (found : InOption) : Prop :=
  let options := optionsOf p
  ∀ n ∈ found.clientid, ∀ server ∈ found.serverid,
    ServerReads options l server ∧
      (ourServer config options server →
        ClaimReads session options l n ∧
          (Claimable session options n → ReplySound config line session p l found))

def RenewSound (config : Config) (line : Line) (session : Session) (p : Memory) (l : Nat)
    (found : InOption) : Prop :=
  let options := optionsOf p
  ∀ n ∈ found.clientid,
    CompareReads session options l n ∧
      (sameClient session options n → ∀ server ∈ found.serverid,
        ServerReads options l server ∧
          (ourServer config options server → ReplySound config line session p l found))

theorem processSolicit_bounded :
    (processSolicit config line session p l found).Bounded ↔
      SolicitSound config line session p l found := by
  rw [processSolicit, SolicitSound]
  cases found.clientid with
  | none => simp [unanswered_bounded]
  | some n =>
      obtain ⟨accepted, inside⟩ := @claimClient_eq session l (optionsOf p) n
      have sound := @claimClient_sound config line session p l (optionsOf p) found n l
      by_cases rapid : found.rapidcommit.isSome
      · by_cases claimable : Claimable session (optionsOf p) n
        · by_cases free : found.serverid = none
          · simp [rapid, claimable, free, accepted, after_bounded, dhcp6SendReply_bounded, inside,
              sound]
          · simp [rapid, claimable, free, accepted, unanswered_bounded, inside,
              Option.isSome_iff_ne_none]
        · simp [rapid, claimable, accepted, unanswered_bounded, inside]
      · by_cases free : found.serverid = none
        · simp [rapid, free, after_bounded, dhcp6SendReply_bounded]
        · simp [rapid, free, unanswered_bounded, Option.isSome_iff_ne_none]

theorem serverReads_iff {server : Nat} :
    serverReads options l server ↔ ServerReads options l server :=
  decide_eq_true_iff

theorem processRequest_bounded :
    (processRequest config line session p l found).Bounded ↔
      RequestSound config line session p l found := by
  rw [processRequest, RequestSound]
  cases found.clientid with
  | none => simp [unanswered_bounded]
  | some n =>
      obtain ⟨accepted, inside⟩ := @claimClient_eq session l (optionsOf p) n
      have sound := @claimClient_sound config line session p l (optionsOf p) found n l
      have advertised (handled : Handled) :
          Handled.Bounded { handled with advert := true } ↔ handled.Bounded :=
        ⟨fun bounded => ⟨bounded.inside, bounded.fits⟩,
          fun bounded => ⟨bounded.inside, bounded.fits⟩⟩
      cases found.serverid with
      | none => simp [unanswered_bounded]
      | some server =>
          by_cases ours : ourServer config (optionsOf p) server
          · by_cases claimable : Claimable session (optionsOf p) n
            · simp [ours, claimable, accepted, advertised, after_bounded, dhcp6SendReply_bounded,
                inside, sound, serverReads_iff, and_assoc]
            · simp [ours, claimable, accepted, unanswered_bounded, inside, serverReads_iff]
          · simp [ours, unanswered_bounded, serverReads_iff]

theorem processRenew_bounded :
    (processRenew config line session p l found).Bounded ↔
      RenewSound config line session p l found := by
  rw [processRenew, RenewSound]
  cases found.clientid with
  | none => simp [unanswered_bounded]
  | some n =>
      have inside : (compareClient session (optionsOf p) l n).inside ↔
          CompareReads session (optionsOf p) l n := decide_eq_true_iff
      have accepted : (compareClient session (optionsOf p) l n).accepted ↔
          sameClient session (optionsOf p) n := decide_eq_true_iff
      by_cases same : sameClient session (optionsOf p) n
      · cases found.serverid with
        | none => simp [same, accepted, unanswered_bounded, inside]
        | some server =>
            by_cases ours : ourServer config (optionsOf p) server
            · simp [same, accepted, ours, after_bounded, dhcp6SendReply_bounded, inside,
                serverReads_iff, and_assoc]
            · simp [same, accepted, ours, unanswered_bounded, inside, serverReads_iff]
      · simp [same, accepted, unanswered_bounded, inside]

/-- What has to be inside of a packet of `l` bytes and of the buffer of the answer: the type, the
headers of all options, what of the options is compared or copied, and the answer. -/
def MessageSound (config : Config) (line : Line) (session : Session) (p : Memory) (l : Nat) :
    Prop :=
  let found := lastOptions p
  if session.Delegates then
    49 ≤ l ∧ HeadersInside p l ∧
      (p 48 = solicit → SolicitSound config line session p l found) ∧
      (p 48 = request → RequestSound config line session p l found) ∧
      (p 48 = renew → RenewSound config line session p l found) ∧
      (p 48 = informationRequest → found.clientid ≠ none →
        ReplySound config line session p l found)
  else 3 ≤ config.debug → 49 ≤ l

theorem dhcpv6Process_bounded (config : Config) (line : Line) (session : Session) (p : Memory)
    (l : Nat) :
    (dhcpv6Process config line session p l).Bounded ↔
      MessageSound config line session p l := by
  rw [dhcpv6Process, MessageSound]
  by_cases delegates : session.Delegates
  · rw [if_neg (not_not.mpr delegates), if_pos delegates, ← foundIn, foundIn_eq, after_bounded]
    have reads : (decide (HeadersInside p l) && decide (49 ≤ l)) = true ↔
        49 ≤ l ∧ HeadersInside p l := by
      rw [Bool.and_eq_true, decide_eq_true_iff, decide_eq_true_iff, and_comm]
    dsimp only
    rw [reads, and_assoc]
    refine and_congr_right fun _ => and_congr_right fun _ => ?_
    -- whether the headers were inside matters to no answer
    have solicited : (processSolicit config line session p l
        { lastOptions p with inside := HeadersInside p l }).Bounded ↔
          SolicitSound config line session p l (lastOptions p) := processSolicit_bounded
    have requested : (processRequest config line session p l
        { lastOptions p with inside := HeadersInside p l }).Bounded ↔
          RequestSound config line session p l (lastOptions p) := processRequest_bounded
    have renewed : (processRenew config line session p l
        { lastOptions p with inside := HeadersInside p l }).Bounded ↔
          RenewSound config line session p l (lastOptions p) := processRenew_bounded
    have informed : (processInformationRequest config line session p l
        { lastOptions p with inside := HeadersInside p l }).Bounded ↔
          ((lastOptions p).clientid ≠ none →
            ReplySound config line session p l (lastOptions p)) := by
      rw [processInformationRequest]
      by_cases client : (lastOptions p).clientid = none
      · simp [client, unanswered_bounded]
      · simp only [client, if_false, ne_eq, not_false_eq_true, forall_const]
        exact dhcp6SendReply_bounded
    obtain ⟨renewSolicit, renewRequest, renewInformation⟩ := renew_types
    have others : ¬ solicit = request ∧ ¬ solicit = informationRequest ∧
        ¬ request = informationRequest := by decide
    split_ifs with solicits requests renews informs
    · simp [solicited, solicits, others, Ne.symm renewSolicit]
    · simp [requested, requests, others, Ne.symm others.1, Ne.symm renewRequest]
    · simp [renewed, renews, renewSolicit, renewRequest, renewInformation]
    · simp [informed, informs, Ne.symm others.2.1, Ne.symm others.2.2, Ne.symm renewInformation]
    · simp [solicits, requests, renews, informs, unanswered_bounded]
  · rw [if_pos delegates, if_neg delegates, unanswered_bounded, decide_eq_true_iff]

/-- A message is handled in bounds: the loop over its options ends, and what is read is inside of
the packet and what is written inside of the buffer of the answer. -/
structure HandledInBounds (config : Config) (line : Line) (session : Session) (p : Memory)
    (l : Nat) : Prop where
  ends : ((optionsOf p).visited 0).length ≤ 2 ^ 14
  bounded : (dhcpv6Process config line session p l).Bounded

theorem options_end (p : Memory) : ((optionsOf p).visited 0).length ≤ 2 ^ 14 := by
  have steps := @TagList.visited_length (optionsOf p) 0
  have declared := Avp.ntohs_lt p 4
  have size : (optionsOf p).size = ntohs p 4 + 40 - 52 := rfl
  omega

/-- **DHCPv6 messages** are handled inside of the packet received and of the buffer of the answer
exactly if the lengths in the packet and the size of the answer let it. -/
theorem dhcpv6_bounded_iff (config : Config) (line : Line) (session : Session) (p : Memory)
    (l : Nat) :
    HandledInBounds config line session p l ↔ MessageSound config line session p l := by
  rw [← dhcpv6Process_bounded]
  exact ⟨HandledInBounds.bounded, fun bounded => ⟨options_end p, bounded⟩⟩

/-- A packet that `processipv6in` hands to the server. -/
structure IsDhcp6 (p : Memory) (l : Nat) : Prop where
  short : l ≤ maxEther
  nxt : p 6 = 17
  dst : readBytes p 24 16 = [0xFF, 0x02] ++ List.replicate 11 0 ++ [1, 0, 2]
  ports : readBytes p 40 4 = bytes16 546 ++ bytes16 547

/-- Two name servers. -/
def namingConfig : Config :=
  { plainConfig with
    defaultIpv6Dns1 := Vector.replicate 16 0x20
    defaultIpv6Dns2 := Vector.replicate 16 0x20 }

/-- A request with one byte more than is received. -/
def shortened : Memory := clientPacket 13 request []

/-- A client that asks eighty times for the name servers. -/
def demanding : Memory :=
  clientPacket 181 solicit
    ([0, 1, 0, 1, 7] ++ [0, 6, 0, 160] ++ (List.replicate 80 [0, 23]).flatten)

theorem demands_demanding : demands (optionsOf demanding) 5 = List.replicate 80 optDnsServers := by
  decide

theorem lastOptions_demanding :
    lastOptions demanding = ⟨some 0, none, none, none, none, some 5, none, true⟩ := by
  have visits : (optionsOf demanding).visited 0 = [0, 5] := by
    rw [TagList.visited_next (by decide),
      show 0 + (4 + (optionsOf demanding).length 0) = 5 by decide,
      TagList.visited_next (by decide),
      show 5 + (4 + (optionsOf demanding).length 5) = 169 by decide,
      TagList.visited_end (by decide)]
  simp only [lastOptions, lastOption, visits]
  decide

/-- The header of an option is read behind the first packet, and the answer to the second is
longer than its buffer. -/
theorem dhcpv6_unbounded :
    (IsDhcp6 shortened 52 ∧
        ¬ HandledInBounds plainConfig plainLine delegating shortened 52) ∧
      IsDhcp6 demanding 221 ∧
        ¬ HandledInBounds namingConfig plainLine delegating demanding 221 := by
  have delegates : delegating.Delegates := by decide
  refine ⟨⟨⟨by decide, by decide, by decide, by decide⟩, fun handled => ?_⟩,
    ⟨by decide, by decide, by decide, by decide⟩, fun handled => ?_⟩
  · have sound := (dhcpv6Process_bounded _ _ _ _ _).mp handled.bounded
    rw [MessageSound, if_pos delegates] at sound
    have header := sound.2.1 0 (by rw [TagList.visited_next (by decide)]; exact List.mem_cons_self)
    exact absurd header (by decide)
  · have sound := (dhcpv6Process_bounded _ _ _ _ _).mp handled.bounded
    rw [MessageSound, if_pos delegates, lastOptions_demanding] at sound
    have reply := (sound.2.2.1 (by decide) 0 rfl).2 nofun rfl
    have size := reply.2
    simp only [answerSize, Option.elim_some, demands_demanding, demandsSize,
      List.count_replicate_self] at size
    have large : 36 = dnsSize namingConfig := by decide
    rw [← large] at size
    have room : maxEther = 2618 := rfl
    omega

end L2tpns.Dhcp6
