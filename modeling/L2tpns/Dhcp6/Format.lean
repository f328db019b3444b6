import L2tpns.Dhcp6.Advertise
import L2tpns.Dhcp6.Bounds

/-! # Well formed DHCPv6 answers

An answer lays down options one behind the other, and some of them have options inside. Each
length is put down beside the bytes that it counts, and whatever the message, the session and the
configuration are, the options tile the answer, what a session has is in its associations, and the
lengths and the checksum of the packet are right (`L2tpns.Dhcp6.answers_formed`).
-/

namespace L2tpns.Dhcp6

open Foundation
open Foundation.Tiling (Delimited cut cut_flatten cut_single mem_maybe maybe
  maybe_flatten)
open Avp (Memory ntohs readBytes readBytes_length writeBytes)
open Encap (bytes16_length bytes32_length)
open Icmp (ipv6Checksum ipv6Checksum_eq)
open Server (bytes16 bytes32 maxEther)

def optionSize (bytes : List UInt8) : Nat := 4 + shortAt bytes 2

def optionCode (item : List UInt8) : Nat := shortAt item 0

/-- The options in an association are behind its identifier and its times. -/
structure AssociationsFormed (config : Config) (session : Session) (type : UInt8)
    (item : List UInt8) : Prop where
  /-- A prefix for each route in front of the first that is not there; or no binding. -/
  pd : optionCode item = optIaPd → cut optionSize (item.drop 16) = some
    (if type = renew ∧ session.dhcpv6PrefixIaid ≠ (item.drop 4).take 4 then
      [statusOption statusNoBinding]
    else session.prefixes.map (iaPrefixOption config))
  /-- One address; or no binding. -/
  na : optionCode item = optIaNa → cut optionSize (item.drop 16) = some
    [if type = renew ∧ session.dhcpv6IanaIaid ≠ (item.drop 4).take 4 then
      statusOption statusNoBinding
    else iaAddrOption config session]
  /-- No temporary address. -/
  ta : optionCode item = optIaTa → cut optionSize (item.drop 8) = some
    [statusOption statusUnspecFail]

/-- The headers of an answer tell its length, its checksum verifies, and its options tile it. There
is an association in it for each kind that was asked for. -/
structure AnswerFormed (config : Config) (session : Session) (p : Memory) (packet : List UInt8) :
    Prop where
  framed : Framed packet 17
  udpLength : shortAt packet 44 = packet.length - 40
  options : ∃ items, cut optionSize (packet.drop 52) = some items ∧
    (∀ item ∈ items, AssociationsFormed config session (p 48) item) ∧
    ∀ code ∈ [optIaPd, optIaNa, optIaTa],
      (items.map optionCode).count code =
        if p 48 ≠ informationRequest ∧ lastOption p code ≠ none then 1 else 0

variable {config : Config} {line : Line} {session : Session} {p : Memory} {l n : Nat}
  {options : TagList} {type : UInt8} {found : InOption}

/-- Bytes are one option with a code. -/
structure IsOption (code : Nat) (item : List UInt8) : Prop where
  code : optionCode item = code
  delimited : Delimited optionSize item

theorem isOption {code len : Nat} {value : List UInt8} (known : code < 2 ^ 16)
    (size : value.length = len) (small : len < 2 ^ 16) :
    IsOption code (bytes16 code ++ (bytes16 len ++ value)) := by
  refine ⟨@shortAt_append [] 0 code rfl known _, List.cons_ne_nil _ _, fun rest => ?_⟩
  rw [optionSize, List.append_assoc, List.append_assoc,
    @shortAt_append (bytes16 code) 2 len rfl small]
  simp [size]
  omega

theorem localServerid_isOption : IsOption optServerId (localServerid config) := by
  simp only [localServerid, List.append_assoc]
  exact isOption (by decide) (by simp) (by decide)

theorem optionBytes_isOption (options : TagList) (n : Nat) :
    IsOption (options.type n) (optionBytes options n) := by
  have word (i : Nat) : readBytes options.data i 2 = bytes16 (options.word i) :=
    (Server.bytes16_pair _ _).symm
  have split : optionBytes options n = bytes16 (options.type n) ++ (bytes16 (options.length n) ++
      readBytes options.data (options.base + n + 4) (options.length n)) := by
    rw [optionBytes, show 4 + options.length n = 2 + (2 + options.length n) by omega,
      Avp.readBytes_append, Avp.readBytes_append, word, word]
    rfl
  rw [split]
  exact isOption (Avp.ntohs_lt _ _) (readBytes_length _ _ _) (Avp.ntohs_lt _ _)

theorem statusOption_isOption (code : Nat) : IsOption optStatusCode (statusOption code) := by
  simp only [statusOption, List.append_assoc]
  exact isOption (by decide) (by simp) (by decide)

theorem iaPrefixOption_isOption (route : Route6) :
    IsOption optIaPrefix (iaPrefixOption config route) := by
  simp only [iaPrefixOption, List.append_assoc]
  exact isOption (by decide) (by simp) (by decide)

theorem iaAddrOption_isOption : IsOption optIaAddr (iaAddrOption config session) := by
  simp only [iaAddrOption, List.append_assoc]
  exact isOption (by decide) (by simp) (by decide)

theorem iaTaAnswer_isOption : IsOption optIaTa (iaTaAnswer (iaid options n)) := by
  simp only [iaTaAnswer, List.append_assoc]
  exact isOption (by decide) (by simp) (by decide)

theorem dnsOption_isOption (some : dnsOption config ≠ []) :
    IsOption optDnsServers (dnsOption config) := by
  rw [dnsOption] at some ⊢
  split_ifs at some ⊢
  · exact absurd rfl some
  · simp only [List.append_assoc]
    exact isOption (by decide) (by simp) (by decide)
  · simp only [List.append_assoc]
    exact isOption (by decide) (by simp) (by decide)

theorem domainOption_isOption (some : domainOption config ≠ []) :
    IsOption optDomainList (domainOption config) := by
  rw [domainOption] at some ⊢
  cases formats : dhcpv6FormatDnsSearchName config.defaultIpv6DomainList with
  | none => simp [formats] at some
  | some encoded =>
      obtain ⟨len, buffer⟩ := encoded
      simp only [formats] at some ⊢
      split_ifs at some ⊢ with accepted
      · obtain ⟨length, short⟩ := searchName_length formats accepted
        simp only [List.append_assoc]
        exact isOption (by decide) (by simp [length]) (by omega)
      · exact absurd rfl some

theorem iaHead_isOption {code len : Nat} {inside : List UInt8} (known : code < 2 ^ 16)
    (size : 12 + inside.length = len) (small : len < 2 ^ 16) :
    IsOption code (iaHead config code len (iaid options n) ++ inside) := by
  simp only [iaHead, List.append_assoc]
  exact isOption known (by simp; omega) small

theorem iaHead_parts (code len : Nat) (inside : List UInt8) :
    (iaHead config code len (iaid options n) ++ inside).drop 16 = inside ∧
      ((iaHead config code len (iaid options n) ++ inside).drop 4).take 4 = iaid options n := by
  refine ⟨List.drop_left' (by simp), ?_⟩
  simp only [iaHead, List.append_assoc]
  rw [← List.append_assoc (bytes16 code), List.drop_left' (by simp), List.take_left' (by simp)]

theorem formed_of_code {item : List UInt8} {code : Nat} (isOption : IsOption code item)
    (other : code ∉ [optIaPd, optIaNa, optIaTa]) :
    AssociationsFormed config session type item := by
  simp only [List.mem_cons, List.not_mem_nil, or_false, not_or] at other
  obtain ⟨pd, na, ta⟩ := other
  have code := isOption.code
  exact ⟨fun same => absurd (code.symm.trans same) pd, fun same => absurd (code.symm.trans same) na,
    fun same => absurd (code.symm.trans same) ta⟩

/-- The answer for prefixes of a message, if it asks for some. -/
def pdBytes (config : Config) (session : Session) (options : TagList) (type : UInt8)
    (found : InOption) : List UInt8 :=
  if type = informationRequest then []
  else found.iaPd.elim [] fun n =>
    (iaPdAnswer config session type found.rapidcommit.isSome (iaid options n)).2

/-- The answer for an address of a message, if it asks for one. -/
def naBytes (config : Config) (session : Session) (options : TagList) (type : UInt8)
    (found : InOption) : List UInt8 :=
  if type = informationRequest then []
  else found.iaNa.elim [] fun n =>
    (iaNaAnswer config session type found.rapidcommit.isSome (iaid options n)).2

/-- The answer for a temporary address of a message, if it asks for one. -/
def taBytes (options : TagList) (type : UInt8) (found : InOption) : List UInt8 :=
  if type = informationRequest then []
  else found.iaTa.elim [] fun n => iaTaAnswer (iaid options n)

theorem pdBytes_ne_nil :
    pdBytes config session options type found ≠ [] ↔
      type ≠ informationRequest ∧ found.iaPd ≠ none := by
  rw [pdBytes]
  cases found.iaPd with
  | none => simp
  | some n =>
      have some : (iaPdAnswer config session type found.rapidcommit.isSome
          (iaid options n)).2 ≠ [] := by
        rw [← List.length_pos_iff, iaPdAnswer_length]
        split_ifs <;> omega
      split_ifs with information <;> simp [information, some]

theorem naBytes_ne_nil :
    naBytes config session options type found ≠ [] ↔
      type ≠ informationRequest ∧ found.iaNa ≠ none := by
  rw [naBytes]
  cases found.iaNa with
  | none => simp
  | some n =>
      have some : (iaNaAnswer config session type found.rapidcommit.isSome
          (iaid options n)).2 ≠ [] := by
        rw [← List.length_pos_iff, iaNaAnswer_length]
        split_ifs <;> omega
      split_ifs with information <;> simp [information, some]

theorem taBytes_ne_nil :
    taBytes options type found ≠ [] ↔ type ≠ informationRequest ∧ found.iaTa ≠ none := by
  rw [taBytes]
  cases found.iaTa with
  | none => simp
  | some n => split_ifs with information <;> simp [information, iaTaAnswer, bytes16]

structure FormedOption (config : Config) (session : Session) (type : UInt8) (code : Nat)
    (item : List UInt8) : Prop where
  isOption : IsOption code item
  formed : AssociationsFormed config session type item

theorem iaPdAnswer_bytes (rapid : Bool) (iaid : List UInt8) :
    (iaPdAnswer config session type rapid iaid).2 =
      pdAnswer config session iaid (¬ (type = renew ∧ session.dhcpv6PrefixIaid ≠ iaid)) := by
  rw [iaPdAnswer, pdAnswer]
  by_cases unbound : type = renew ∧ session.dhcpv6PrefixIaid ≠ iaid
  · rw [if_pos unbound, if_neg (not_not.mpr unbound)]
  · rw [if_neg unbound, if_pos unbound]

theorem iaNaAnswer_bytes (rapid : Bool) (iaid : List UInt8) :
    (iaNaAnswer config session type rapid iaid).2 =
      naAnswer config session iaid (¬ (type = renew ∧ session.dhcpv6IanaIaid ≠ iaid)) := by
  rw [iaNaAnswer, naAnswer]
  by_cases unbound : type = renew ∧ session.dhcpv6IanaIaid ≠ iaid
  · rw [if_pos unbound, if_neg (not_not.mpr unbound)]
  · rw [if_neg unbound, if_pos unbound]

theorem pdBytes_formed (some : pdBytes config session options type found ≠ []) :
    FormedOption config session type optIaPd (pdBytes config session options type found) := by
  obtain ⟨other, asked⟩ := pdBytes_ne_nil.mp some
  obtain ⟨n, asked⟩ := Option.ne_none_iff_exists'.mp asked
  have few := @prefixes_length session
  have inside : (session.prefixes.flatMap (iaPrefixOption config)).length =
      29 * session.prefixes.length := by
    simp [List.length_flatMap, Nat.mul_comm]
  rw [pdBytes, if_neg other, asked, Option.elim_some, iaPdAnswer_bytes, pdAnswer]
  by_cases unbound : type = renew ∧ session.dhcpv6PrefixIaid ≠ iaid options n
  · rw [if_neg (not_not.mpr unbound)]
    have isOption := @iaHead_isOption config n options optIaPd (12 + 6)
      (statusOption statusNoBinding) (by decide) (by simp) (by decide)
    obtain ⟨behind, named⟩ := @iaHead_parts config n options optIaPd (12 + 6)
      (statusOption statusNoBinding)
    refine ⟨isOption, fun _ => ?_, fun same => ?_, fun same => ?_⟩
    · rw [behind, named, if_pos unbound]
      exact cut_single (statusOption_isOption _).delimited
    · exact absurd (isOption.code.symm.trans same) (by decide)
    · exact absurd (isOption.code.symm.trans same) (by decide)
  · rw [if_pos unbound]
    have isOption := @iaHead_isOption config n options optIaPd (12 + 29 * session.prefixes.length)
      (session.prefixes.flatMap (iaPrefixOption config)) (by decide) (by rw [inside]) (by omega)
    obtain ⟨behind, named⟩ := @iaHead_parts config n options optIaPd
      (12 + 29 * session.prefixes.length) (session.prefixes.flatMap (iaPrefixOption config))
    refine ⟨isOption, fun _ => ?_, fun same => ?_, fun same => ?_⟩
    · rw [behind, named, if_neg unbound, List.flatMap_def]
      apply cut_flatten
      intro item member
      obtain ⟨route, -, rfl⟩ := List.mem_map.mp member
      exact (iaPrefixOption_isOption route).delimited
    · exact absurd (isOption.code.symm.trans same) (by decide)
    · exact absurd (isOption.code.symm.trans same) (by decide)

theorem naBytes_formed (some : naBytes config session options type found ≠ []) :
    FormedOption config session type optIaNa (naBytes config session options type found) := by
  obtain ⟨other, asked⟩ := naBytes_ne_nil.mp some
  obtain ⟨n, asked⟩ := Option.ne_none_iff_exists'.mp asked
  rw [naBytes, if_neg other, asked, Option.elim_some, iaNaAnswer_bytes, naAnswer]
  by_cases unbound : type = renew ∧ session.dhcpv6IanaIaid ≠ iaid options n
  · rw [if_neg (not_not.mpr unbound)]
    have isOption := @iaHead_isOption config n options optIaNa (12 + 6)
      (statusOption statusNoBinding) (by decide) (by simp) (by decide)
    obtain ⟨behind, named⟩ := @iaHead_parts config n options optIaNa (12 + 6)
      (statusOption statusNoBinding)
    refine ⟨isOption, fun same => ?_, fun _ => ?_, fun same => ?_⟩
    · exact absurd (isOption.code.symm.trans same) (by decide)
    · rw [behind, named, if_pos unbound]
      exact cut_single (statusOption_isOption _).delimited
    · exact absurd (isOption.code.symm.trans same) (by decide)
  · rw [if_pos unbound]
    have isOption := @iaHead_isOption config n options optIaNa (12 + 28)
      (iaAddrOption config session) (by decide) (by simp [iaAddrOption]) (by decide)
    obtain ⟨behind, named⟩ := @iaHead_parts config n options optIaNa (12 + 28)
      (iaAddrOption config session)
    refine ⟨isOption, fun same => ?_, fun _ => ?_, fun same => ?_⟩
    · exact absurd (isOption.code.symm.trans same) (by decide)
    · rw [behind, named, if_neg unbound]
      exact cut_single iaAddrOption_isOption.delimited
    · exact absurd (isOption.code.symm.trans same) (by decide)

theorem taBytes_formed (some : taBytes options type found ≠ []) :
    FormedOption config session type optIaTa (taBytes options type found) := by
  obtain ⟨other, asked⟩ := taBytes_ne_nil.mp some
  obtain ⟨n, asked⟩ := Option.ne_none_iff_exists'.mp asked
  rw [taBytes, if_neg other, asked, Option.elim_some]
  have isOption := @iaTaAnswer_isOption n options
  refine ⟨isOption, fun same => ?_, fun same => ?_, fun _ => ?_⟩
  · exact absurd (isOption.code.symm.trans same) (by decide)
  · exact absurd (isOption.code.symm.trans same) (by decide)
  · rw [iaTaAnswer, List.drop_left' (by simp)]
    exact cut_single (statusOption_isOption _).delimited

/-- The answers to a code that is asked for, with their own codes. -/
def demandedParts (config : Config) (code : Nat) : List (Nat × List UInt8) :=
  [(optDnsServers, if code = optDnsServers then dnsOption config else []),
    (optDomainList, if code = optDomainList then domainOption config else [])]

/-- The parts of an answer with their codes; a part that is empty is missing. -/
def answerParts (config : Config) (session : Session) (options : TagList) (type : UInt8)
    (found : InOption) : List (Nat × List UInt8) :=
  [(optServerId, localServerid config), (optClientId, found.clientid.elim [] (optionBytes options)),
    (optIaPd, pdBytes config session options type found),
    (optIaNa, naBytes config session options type found), (optIaTa, taBytes options type found)] ++
  (found.oro.elim [] fun n => (demands options n).flatMap (demandedParts config)) ++
  [(optRapidCommit, if found.rapidcommit.isSome ∧ type = solicit then
      bytes16 optRapidCommit ++ bytes16 0 else []),
    (optPreference, bytes16 optPreference ++ bytes16 1 ++ [255])]

theorem demandedParts_flatMap (codes : List Nat) :
    (codes.flatMap (demandedParts config)).flatMap Prod.snd = codes.flatMap (demanded config) := by
  induction codes with
  | nil => rfl
  | cons code codes ih =>
      rw [List.flatMap_cons, List.flatMap_append, ih, List.flatMap_cons]
      simp [demandedParts, demanded]

/-- **The options of an answer** are its parts. -/
theorem replyOptions_eq :
    (replyOptions config session options type found).2 =
      (answerParts config session options type found).flatMap Prod.snd := by
  have oro : ((found.oro.elim [] fun n =>
      (demands options n).flatMap (demandedParts config)).flatMap Prod.snd) =
        found.oro.elim [] fun n => (demands options n).flatMap (demanded config) := by
    cases found.oro with
    | none => rfl
    | some n => exact demandedParts_flatMap _
  have na (rapid : Bool) (first second : List UInt8) :
      (iaNaAnswer config (iaPdAnswer config session type rapid first).1 type rapid second).2 =
        (iaNaAnswer config session type rapid second).2 := by
    rw [iaPdAnswer_session, iaNaAnswer_bytes, iaNaAnswer_bytes]
    rfl
  simp only [replyOptions, answerParts, List.flatMap_append, List.flatMap_cons, List.flatMap_nil,
    oro, List.append_nil, pdBytes, naBytes, taBytes]
  by_cases information : type = informationRequest
  · simp only [information, ne_eq, not_true_eq_false, if_false, if_true]
    cases found.iaPd <;> cases found.iaNa <;> cases found.iaTa <;> simp
  · simp only [ne_eq, information, not_false_eq_true, if_true, if_false]
    cases found.iaPd <;> cases found.iaNa <;> cases found.iaTa <;> simp [na]

def answerItems (parts : List (Nat × List UInt8)) : List (List UInt8) :=
  parts.flatMap fun part => maybe part.2

theorem answerItems_flatten (parts : List (Nat × List UInt8)) :
    (answerItems parts).flatten = parts.flatMap Prod.snd := by
  induction parts with
  | nil => rfl
  | cons part parts ih =>
      rw [answerItems, List.flatMap_cons, List.flatten_append, maybe_flatten, List.flatMap_cons,
        ← ih]
      rfl

theorem answerItems_count {parts : List (Nat × List UInt8)}
    (codes : ∀ part ∈ parts, part.2 ≠ [] → optionCode part.2 = part.1) (code : Nat) :
    ((answerItems parts).map optionCode).count code =
      parts.countP fun part => part.1 = code ∧ part.2 ≠ [] := by
  induction parts with
  | nil => rfl
  | cons part parts ih =>
      have behind := ih fun other member => codes other (List.mem_cons_of_mem part member)
      have first := codes part List.mem_cons_self
      rw [answerItems, List.flatMap_cons, List.map_append, List.count_append, List.countP_cons]
      change _ + ((answerItems parts).map optionCode).count code = _
      rw [behind, maybe, Nat.add_comm]
      by_cases empty : part.2 = []
      · simp [empty]
      · simp [empty, first empty, List.count_singleton]

theorem plain_formed {code : Nat} {item : List UInt8} (isOption : IsOption code item)
    (other : code ∉ [optIaPd, optIaNa, optIaTa]) : FormedOption config session type code item :=
  ⟨isOption, formed_of_code isOption other⟩

/-- Every part that is there is one option, with well formed associations. -/
theorem answerParts_formed (client : ∀ n ∈ found.clientid, options.type n = optClientId)
    {part : Nat × List UInt8} (member : part ∈ answerParts config session options type found)
    (some : part.2 ≠ []) : FormedOption config session type part.1 part.2 := by
  obtain ⟨code, item⟩ := part
  rw [answerParts, List.append_assoc, List.mem_append, List.mem_append] at member
  dsimp only at some ⊢
  rcases member with first | asked | last
  · simp only [List.mem_cons, List.not_mem_nil, or_false, Prod.mk.injEq] at first
    rcases first with ⟨rfl, rfl⟩ | ⟨rfl, rfl⟩ | ⟨rfl, rfl⟩ | ⟨rfl, rfl⟩ | ⟨rfl, rfl⟩
    · exact plain_formed localServerid_isOption (by decide)
    · cases named : found.clientid with
      | none => simp [named] at some
      | some n =>
          have isOption := optionBytes_isOption options n
          rw [client n named] at isOption
          exact plain_formed isOption (by decide)
    · exact pdBytes_formed some
    · exact naBytes_formed some
    · exact taBytes_formed some
  · cases oro : found.oro with
    | none => simp [oro] at asked
    | some n =>
        rw [oro, Option.elim_some, List.mem_flatMap] at asked
        obtain ⟨asked, -, answered⟩ := asked
        simp only [demandedParts, List.mem_cons, List.not_mem_nil, or_false, Prod.mk.injEq]
          at answered
        rcases answered with ⟨rfl, rfl⟩ | ⟨rfl, rfl⟩
        · split_ifs at some ⊢ with dns
          · exact plain_formed (dnsOption_isOption some) (by decide)
          · exact absurd rfl some
        · split_ifs at some ⊢ with domain
          · exact plain_formed (domainOption_isOption some) (by decide)
          · exact absurd rfl some
  · simp only [List.mem_cons, List.not_mem_nil, or_false, Prod.mk.injEq] at last
    rcases last with ⟨rfl, rfl⟩ | ⟨rfl, rfl⟩
    · split_ifs at some ⊢ with rapid
      · exact plain_formed (@isOption optRapidCommit 0 [] (by decide) rfl (by decide)) (by decide)
      · exact absurd rfl some
    · exact plain_formed (@isOption optPreference 1 [255] (by decide) rfl (by decide)) (by decide)

/-- There is an association in an answer for each kind that was asked for. -/
theorem answerParts_count {code : Nat} {asked : Option Nat}
    (kind : code = optIaPd ∧ asked = found.iaPd ∨ code = optIaNa ∧ asked = found.iaNa ∨
      code = optIaTa ∧ asked = found.iaTa) :
    (answerParts config session options type found).countP
        (fun part => part.1 = code ∧ part.2 ≠ []) =
      if type ≠ informationRequest ∧ asked ≠ none then 1 else 0 := by
  have pd := @pdBytes_ne_nil config session options type found
  have na := @naBytes_ne_nil config session options type found
  have ta := @taBytes_ne_nil options type found
  have others : code ≠ optDnsServers ∧ code ≠ optDomainList ∧ code ≠ optServerId ∧
      code ≠ optClientId ∧ code ≠ optRapidCommit ∧ code ≠ optPreference := by
    rcases kind with ⟨rfl, -⟩ | ⟨rfl, -⟩ | ⟨rfl, -⟩ <;> decide
  obtain ⟨noDns, noDomain, noServer, noClient, noRapid, noPreference⟩ := others
  have oro : (found.oro.elim [] fun n => (demands options n).flatMap
      (demandedParts config)).countP (fun part => part.1 = code ∧ part.2 ≠ []) = 0 := by
    rw [List.countP_eq_zero]
    intro part member
    cases oro : found.oro with
    | none => simp [oro] at member
    | some n =>
        rw [oro, Option.elim_some, List.mem_flatMap] at member
        obtain ⟨asked, -, answered⟩ := member
        simp only [demandedParts, List.mem_cons, List.not_mem_nil, or_false] at answered
        rcases answered with rfl | rfl
        · simp [noDns.symm]
        · simp [noDomain.symm]
  rw [answerParts, List.countP_append, List.countP_append, oro]
  rcases kind with ⟨rfl, rfl⟩ | ⟨rfl, rfl⟩ | ⟨rfl, rfl⟩
  · simp +decide [List.countP_cons, pd]
  · simp +decide [List.countP_cons, na]
  · simp +decide [List.countP_cons, ta]

theorem udpPacket_framed {src dst : List UInt8} (srcSize : src.length = 16)
    (dstSize : dst.length = 16) (source dest : Nat) {payload : List UInt8}
    (small : 8 + payload.length < 2 ^ 16) :
    Framed (udpPacket src dst source dest payload) 17 ∧
      shortAt (udpPacket src dst source dest payload) 44 =
        (udpPacket src dst source dest payload).length - 40 := by
  have framed := @framed_of_checksum src dst (bytes16 source ++ bytes16 dest ++
    bytes16 (8 + payload.length)) payload 17 1 srcSize dstSize (by simp) (8 + payload.length)
    (by simp) small
  refine ⟨framed, ?_⟩
  have header := @ip6Header_length src dst 17 1 srcSize dstSize (8 + payload.length)
  have length : (udpPacket src dst source dest payload).length - 40 = 8 + payload.length := by
    simp [udpPacket, header]
    omega
  rw [length]
  simp only [udpPacket, List.append_assoc]
  rw [← List.append_assoc (ip6Header _ _ _ _ _), ← List.append_assoc]
  exact shortAt_append (by simp [header]) small _

theorem lastOption_type {code : Nat} (found : n ∈ lastOption p code) :
    (optionsOf p).type n = code :=
  of_decide_eq_true (TagList.latest_mem found).2

/-- An answer that is sent from a session is well formed. -/
theorem dhcp6SendReply_formed {packet : List UInt8}
    (answered : packet ∈ (dhcp6SendReply config line session p l (foundIn p l)).answer)
    (short : packet.length ≤ maxEther + 20) : AnswerFormed config session p packet := by
  have noted : (dhcp6SendReply config line session p l (foundIn p l)).answer =
      (dhcp6SendReply config line session p l (lastOptions p)).answer := by
    rw [foundIn_eq]
    rfl
  obtain ⟨type, rfl⟩ : ∃ type : UInt8, packet = udpPacket replySource.toList (readBytes p 8 16) 547
      546 (type :: readBytes p 49 3 ++
        (replyOptions config session (optionsOf p) (p 48) (lastOptions p)).2) :=
    ⟨_, (Option.some_inj.mp (noted.symm.trans answered)).symm⟩
  have source : replySource.toList.length = 16 := by simp
  have dest : (readBytes p 8 16).length = 16 := readBytes_length p 8 16
  rw [replyOptions_eq, ← answerItems_flatten] at short ⊢
  generalize same : answerParts config session (optionsOf p) (p 48) (lastOptions p) = parts
    at short ⊢
  have formed {part : Nat × List UInt8} (member : part ∈ parts) (some : part.2 ≠ []) :
      FormedOption config session (p 48) part.1 part.2 := by
    rw [← same] at member
    exact answerParts_formed (fun n client => lastOption_type client) member some
  have payload := udpPacket_payload source dest 547 546
    (type :: readBytes p 49 3 ++ (answerItems parts).flatten)
  have small : 8 + (type :: readBytes p 49 3 ++ (answerItems parts).flatten).length < 2 ^ 16 := by
    rw [← payload, List.length_drop]
    have room : maxEther = 2618 := rfl
    omega
  obtain ⟨framed, udpLength⟩ := udpPacket_framed source dest 547 546 small
  refine ⟨framed, udpLength, answerItems parts, ?_, fun item member => ?_, fun code kind => ?_⟩
  · have behind := congrArg (List.drop 4) payload
    rw [List.drop_drop, List.drop_left' (by simp [readBytes_length])] at behind
    rw [behind]
    apply cut_flatten
    intro item member
    obtain ⟨part, there, mine⟩ := List.mem_flatMap.mp member
    obtain ⟨some, rfl⟩ := mem_maybe.mp mine
    exact (formed there some).isOption.delimited
  · obtain ⟨part, there, mine⟩ := List.mem_flatMap.mp member
    obtain ⟨some, rfl⟩ := mem_maybe.mp mine
    exact (formed there some).formed
  · rw [answerItems_count fun part there some => (formed there some).isOption.code, ← same]
    apply answerParts_count
    simp only [List.mem_cons, List.not_mem_nil, or_false] at kind
    rcases kind with rfl | rfl | rfl
    · exact .inl ⟨rfl, rfl⟩
    · exact .inr (.inl ⟨rfl, rfl⟩)
    · exact .inr (.inr ⟨rfl, rfl⟩)

theorem AnswerFormed.client {packet : List UInt8} {client : Memory}
    (formed : AnswerFormed config { session with dhcpv6ClientId := client } p packet) :
    AnswerFormed config session p packet := by
  obtain ⟨framed, udpLength, items, cuts, associations, counts⟩ := formed
  refine ⟨framed, udpLength, items, cuts, fun item member => ?_, counts⟩
  obtain ⟨pd, na, ta⟩ := associations item member
  exact ⟨pd, na, ta⟩

theorem dhcpv6Process_formed {packet : List UInt8}
    (answered : packet ∈ (dhcpv6Process config line session p l).answer)
    (fits : headerSize line + packet.length ≤ maxEther + 20) :
    AnswerFormed config session p packet := by
  have short : packet.length ≤ maxEther + 20 := by omega
  rcases dhcpv6Process_outcome config line session p l with
    dropped | ⟨n, -, -, -, dropped | claimed⟩ | renewed | ⟨-, other⟩
  · rw [dropped.answer] at answered
    exact nomatch answered
  · rw [dropped.answer] at answered
    exact nomatch answered
  · rw [claimed.2, (@claimClient_session session l (optionsOf p) n).2] at answered
    exact (dhcp6SendReply_formed answered short).client
  · rw [renewed.2.2.2.2.2] at answered
    exact dhcp6SendReply_formed answered short
  · rw [other.2] at answered
    exact dhcp6SendReply_formed answered short

/-- **Answers and advertisements** are well formed: a packet that answers a message and fits into
its buffer, and an advertisement. -/
theorem answers_formed (config : Config) (line : Line) (session : Session) :
    (∀ p l, ∀ packet ∈ (dhcpv6Process config line session p l).answer,
      headerSize line + packet.length ≤ maxEther + 20 → AnswerFormed config session p packet) ∧
      ∀ ip, ∀ packet ∈ sendIpv6Ra config line session ip, AdvertFormed packet :=
  ⟨fun _ _ _ => dhcpv6Process_formed, fun _ _ => sendIpv6Ra_formed⟩

theorem committing_answered :
    ∃ packet ∈ (dhcpv6Process plainConfig plainLine delegating committing 61).answer,
      headerSize plainLine + packet.length ≤ maxEther + 20 := by
  obtain ⟨packet, answered, size⟩ :
      ∃ packet ∈ (dhcpv6Process plainConfig plainLine delegating committing 61).answer,
        packet.length = 78 := by
    rw [dhcpv6Process, if_neg (by decide), ← foundIn, foundIn_committing]
    exact ⟨_, rfl, by decide⟩
  refine ⟨packet, answered, ?_⟩
  rw [size]
  decide

/-- The client that asks for nothing gets a well formed answer. -/
theorem answers_formed_committing :
    ∃ packet ∈ (dhcpv6Process plainConfig plainLine delegating committing 61).answer,
      AnswerFormed plainConfig delegating committing packet := by
  obtain ⟨packet, answered, fits⟩ := committing_answered
  exact ⟨packet, answered,
    (answers_formed plainConfig plainLine delegating).1 committing 61 packet answered fits⟩

/-- A session whose client has recorded no identifier. -/
def clientBound : Session :=
  { delegating with dhcpv6ClientId := writeBytes (fun _ => 0) 0 [0, 1, 0, 1, 7] }

/-- The client renews prefixes with the identifier one, in a transaction of its choice. -/
def unboundRenewal : Memory :=
  writeBytes (clientPacket 45 renew ([0, 1, 0, 1, 7] ++ localServerid plainConfig ++
    [0, 25, 0, 12, 0, 0, 0, 1] ++ List.replicate 8 0)) 49 [0, 119, 87]

theorem foundIn_unboundRenewal :
    foundIn unboundRenewal 85 = ⟨some 0, some 5, none, none, some 17, none, none, true⟩ := by
  have visits : (optionsOf unboundRenewal).visited 0 = [0, 5, 17] := by
    rw [TagList.visited_next (by decide),
      show 0 + (4 + (optionsOf unboundRenewal).length 0) = 5 by decide,
      TagList.visited_next (by decide),
      show 5 + (4 + (optionsOf unboundRenewal).length 5) = 17 by decide,
      TagList.visited_next (by decide),
      show 17 + (4 + (optionsOf unboundRenewal).length 17) = 33 by decide,
      TagList.visited_end (by decide)]
  rw [foundIn, TagList.walk_eq, visits]
  decide

theorem unboundRenewal_answer :
    (dhcpv6Process plainConfig plainLine clientBound unboundRenewal 85).answer =
      (dhcp6SendReply plainConfig plainLine clientBound unboundRenewal 85
        (foundIn unboundRenewal 85)).answer := by
  rw [dhcpv6Process, if_neg (by decide), ← foundIn, foundIn_unboundRenewal]
  rfl

/-- What the answer to that renewal says: there is no binding. -/
def unboundItems : List (List UInt8) :=
  [localServerid plainConfig, bytes16 optClientId ++ (bytes16 1 ++ [7]),
    iaHead plainConfig optIaPd (12 + 6) (iaid (optionsOf unboundRenewal) 17) ++
      statusOption statusNoBinding,
    bytes16 optPreference ++ (bytes16 1 ++ [255])]

theorem unboundItems_delimited {item : List UInt8} (member : item ∈ unboundItems) :
    Delimited optionSize item := by
  simp only [unboundItems, List.mem_cons, List.not_mem_nil, or_false] at member
  rcases member with rfl | rfl | rfl | rfl
  · exact localServerid_isOption.delimited
  · exact (@isOption optClientId 1 [7] (by decide) rfl (by decide)).delimited
  · exact (iaHead_isOption (by decide) (by simp) (by decide)).delimited
  · exact (@isOption optPreference 1 [255] (by decide) rfl (by decide)).delimited

theorem unboundRenewal_packet :
    (dhcpv6Process plainConfig plainLine clientBound unboundRenewal 85).answer =
      some (udpPacket replySource.toList (readBytes unboundRenewal 8 16) 547 546
        ([7, 0, 119, 87] ++ unboundItems.flatten)) := by
  rw [unboundRenewal_answer, foundIn_unboundRenewal]
  exact congrArg (fun payload => some (udpPacket _ _ _ _ payload)) (by decide)

theorem udpPacket_check {src dst : List UInt8} (srcSize : src.length = 16)
    (dstSize : dst.length = 16) (source dest : Nat) (payload : List UInt8) :
    shortAt (udpPacket src dst source dest payload) 46 =
      ipv6Checksum (pseudoHdr src dst (8 + payload.length) 17) (bytes16 source ++ bytes16 dest ++
        bytes16 (8 + payload.length) ++ bytes16 0 ++ payload) := by
  have header := @ip6Header_length src dst 17 1 srcSize dstSize (8 + payload.length)
  have small (pseudo buff : List UInt8) : ipv6Checksum pseudo buff < 2 ^ 16 := by
    have bound : ipv6Checksum pseudo buff ≤ 2 ^ 16 - 1 := Nat.sub_le _ _
    omega
  rw [udpPacket]
  dsimp only
  rw [List.append_assoc _ (bytes16 (ipv6Checksum _ _)), ← List.append_assoc (ip6Header _ _ _ _ _)]
  exact shortAt_append (by simp [header]) (small _ _) _

/-- The answer to the renewal has no prefix in its association, and a checksum of zero. -/
theorem unboundRenewal_unprefixed :
    ∃ packet ∈ (dhcpv6Process plainConfig plainLine clientBound unboundRenewal 85).answer,
      headerSize plainLine + packet.length ≤ maxEther + 20 ∧
        (∃ items, cut optionSize (packet.drop 52) = some items ∧
          ∃ item ∈ items, optionCode item = optIaPd ∧
            cut optionSize (item.drop 16) ≠
              some (clientBound.prefixes.map (iaPrefixOption plainConfig))) ∧
        shortAt packet 46 = 0 := by
  have source : replySource.toList.length = 16 := by simp
  have dest : (readBytes unboundRenewal 8 16).length = 16 := readBytes_length _ 8 16
  refine ⟨_, unboundRenewal_packet, by decide, ⟨unboundItems, ?_, ?_⟩, ?_⟩
  · have behind := congrArg (List.drop 4)
      (udpPacket_payload source dest 547 546 ([7, 0, 119, 87] ++ unboundItems.flatten))
    rw [List.drop_drop] at behind
    exact (congrArg _ behind).trans (cut_flatten fun item => unboundItems_delimited)
  · have isOption := @iaHead_isOption plainConfig 17 (optionsOf unboundRenewal) optIaPd (12 + 6)
      (statusOption statusNoBinding) (by decide) (by simp) (by decide)
    refine ⟨_, by simp [unboundItems], isOption.code, ?_⟩
    rw [(iaHead_parts _ _ _).1, cut_single (statusOption_isOption _).delimited]
    intro same
    have lengths := congrArg List.length (Option.some_inj.mp same)
    rw [List.length_map] at lengths
    exact absurd lengths (by decide)
  · have ones := @foldWords_eq_ones ((words (pseudoHdr replySource.toList
      (readBytes unboundRenewal 8 16) 56 17 ++ (bytes16 547 ++ bytes16 546 ++ bytes16 56 ++
        bytes16 0 ++ ([7, 0, 119, 87] ++ unboundItems.flatten)))).sum % 2 ^ 32)
    have folded := ones.mpr (by decide)
    rw [udpPacket_check source dest, ipv6Checksum_eq (by simp [pseudoHdr, dest])]
    exact (congrArg (2 ^ 16 - 1 - ·) folded).trans rfl

end L2tpns.Dhcp6
