import L2tpns.Dhcp6.Server
import L2tpns.Foundation.TransitionSystem

/-! # The client of a DHCPv6 session

A session records its client and the identifiers of the client's associations when a request or a
solicitation with rapid commit is answered, and serves that client only. A renewal is answered
with prefixes and an address if the identifiers are those recorded. The identifiers of a session
that has recorded none are zero, and so zero is taken for recorded; besides that, a session is the
client's own in every run (`L2tpns.Dhcp6.binding_kept_iff`).
-/

namespace L2tpns.Dhcp6

open Foundation
open Avp (Memory ntohs readBytes readBytes_length writeBytes)
open Icmp (ipv6Checksum)
open Server (bytes16)

/-- The options of a message, as its loop finds them. -/
def foundIn (p : Memory) (l : Nat) : InOption :=
  (optionsOf p).walk (noteOption (optionsOf p) l) .initial 0

/-- A message of this type records identifiers when it is answered. -/
def Records (type : UInt8) (found : InOption) : Prop :=
  type = request ∨ type = solicit ∧ found.rapidcommit.isSome

instance (type : UInt8) (found : InOption) : Decidable (Records type found) :=
  inferInstanceAs (Decidable (_ ∨ _))

variable {config : Config} {line : Line} {session : Session} {p : Memory} {l : Nat}
  {options : TagList} {type : UInt8} {found : InOption} {rapid : Bool}

theorem iaPdAnswer_session (iaid : List UInt8) :
    (iaPdAnswer config session type rapid iaid).1 =
      { session with
        dhcpv6PrefixIaid :=
          if type = request ∨ type ≠ renew ∧ rapid then iaid else session.dhcpv6PrefixIaid } := by
  rw [iaPdAnswer]
  by_cases renewal : type = renew
  · have other : ¬ renew = request := by decide
    subst renewal
    by_cases same : session.dhcpv6PrefixIaid = iaid
    · subst same
      simp [other]
    · simp [other, same]
  · simp only [renewal, false_and, if_false, ne_eq, not_false_eq_true, true_and]
    split_ifs <;> rfl

theorem iaNaAnswer_session (iaid : List UInt8) :
    (iaNaAnswer config session type rapid iaid).1 =
      { session with
        dhcpv6IanaIaid :=
          if type = request ∨ type ≠ renew ∧ rapid then iaid else session.dhcpv6IanaIaid } := by
  rw [iaNaAnswer]
  by_cases renewal : type = renew
  · have other : ¬ renew = request := by decide
    subst renewal
    by_cases same : session.dhcpv6IanaIaid = iaid
    · subst same
      simp [other]
    · simp [other, same]
  · simp only [renewal, false_and, if_false, ne_eq, not_false_eq_true, true_and]
    split_ifs <;> rfl

/-- The types of messages that are answered. -/
def Answered (type : UInt8) : Prop :=
  type = solicit ∨ type = request ∨ type = renew ∨ type = informationRequest

/-- What the session records when a message is answered. -/
theorem replyOptions_session (answered : Answered type) :
    (replyOptions config session options type found).1 =
      { session with
        dhcpv6PrefixIaid :=
          if Records type found then (found.iaPd.map (iaid options)).getD session.dhcpv6PrefixIaid
          else session.dhcpv6PrefixIaid
        dhcpv6IanaIaid :=
          if Records type found then (found.iaNa.map (iaid options)).getD session.dhcpv6IanaIaid
          else session.dhcpv6IanaIaid } := by
  rw [replyOptions]
  have records : type ≠ informationRequest →
      (type = request ∨ type ≠ renew ∧ found.rapidcommit.isSome ↔ Records type found) := by
    intro other
    rcases answered with rfl | rfl | rfl | rfl
    · simp [Records, show ¬ solicit = request by decide, show ¬ solicit = renew by decide]
    · simp [Records]
    · simp [Records, show ¬ renew = request by decide, show ¬ renew = solicit by decide]
    · exact absurd rfl other
  by_cases information : type = informationRequest
  · have none : ¬ Records type found := by
      rw [information]
      rintro (same | ⟨same, -⟩)
      · exact absurd same (by decide)
      · exact absurd same (by decide)
    simp only [information, ne_eq, not_true_eq_false, if_false]
    rw [information] at none
    cases found.iaPd <;> cases found.iaNa <;> simp [none]
  · simp only [ne_eq, information, not_false_eq_true, if_true]
    cases found.iaPd <;> cases found.iaNa <;>
      simp only [iaPdAnswer_session, iaNaAnswer_session, records information, Option.map_some,
        Option.map_none, Option.getD_some, Option.getD_none, ite_self]

/-- A message that may record its client. -/
def Claims (config : Config) (p : Memory) (found : InOption) : Prop :=
  (p 48 = request ∧ ∃ server ∈ found.serverid, ourServer config (optionsOf p) server) ∨
    (p 48 = solicit ∧ found.rapidcommit.isSome)

/-- A message is answered from a session. -/
def AnsweredFrom (config : Config) (line : Line) (p : Memory) (l : Nat) (session : Session)
    (handled : Handled) : Prop :=
  handled.session = (dhcp6SendReply config line session p l (foundIn p l)).session ∧
    handled.answer = (dhcp6SendReply config line session p l (foundIn p l)).answer

/-- A message that is not answered leaves the session as it is. -/
structure Dropped (session : Session) (handled : Handled) : Prop where
  session : handled.session = session
  answer : handled.answer = none
  advert : handled.advert = false

theorem unanswered_dropped (inside : Bool) : Dropped session (unanswered session inside) :=
  ⟨rfl, rfl, rfl⟩

theorem Dropped.after {handled : Handled} (dropped : Dropped session handled) (inside : Bool) :
    Dropped session (handled.after inside) :=
  ⟨dropped.session, dropped.answer, dropped.advert⟩

theorem claimClient_session (n : Nat) :
    (session.hasClient → (claimClient session options l n).session = session) ∧
      (claimClient session options l n).session =
        { session with
          dhcpv6ClientId := (claimClient session options l n).session.dhcpv6ClientId } := by
  rw [claimClient]
  split_ifs <;> exact ⟨fun _ => by first | rfl | contradiction, rfl⟩

theorem claimClient_refused {n : Nat} (refused : ¬ (claimClient session options l n).accepted) :
    (claimClient session options l n).session = session := by
  rw [claimClient] at refused ⊢
  split_ifs at refused ⊢
  · rfl
  · exact absurd rfl refused
  · rfl

theorem claimClient_accepted {n : Nat} (known : session.hasClient) :
    (claimClient session options l n).accepted ↔ sameClient session options n := by
  rw [claimClient, if_pos known, compareClient]
  exact decide_eq_true_iff

/-- What a message does: nothing; it records or meets the client, and is answered unless it is a
solicitation that names a server; it is a renewal of the recorded client; or it is answered for
any client, and nothing is recorded. -/
def Outcome (config : Config) (line : Line) (session : Session) (p : Memory) (l : Nat)
    (handled : Handled) : Prop :=
  let found := foundIn p l
  Dropped session handled ∨
    (∃ n ∈ found.clientid, Claims config p found ∧
      (claimClient session (optionsOf p) l n).accepted ∧
      (Dropped (claimClient session (optionsOf p) l n).session handled ∨
        AnsweredFrom config line p l (claimClient session (optionsOf p) l n).session handled)) ∨
    (p 48 = renew ∧ session.Delegates ∧
      (∃ n ∈ found.clientid, sameClient session (optionsOf p) n) ∧
      (∃ server ∈ found.serverid, ourServer config (optionsOf p) server) ∧
      AnsweredFrom config line p l session handled) ∨
    (p 48 = informationRequest ∨ p 48 = solicit ∧ found.rapidcommit = none) ∧
      AnsweredFrom config line p l session handled

theorem Outcome.after {handled : Handled} (outcome : Outcome config line session p l handled)
    (inside : Bool) : Outcome config line session p l (handled.after inside) := by
  rcases outcome with dropped | ⟨n, client, claims, accepted, dropped | answered⟩ | renewed | other
  · exact .inl (dropped.after inside)
  · exact .inr (.inl ⟨n, client, claims, accepted, .inl (dropped.after inside)⟩)
  · exact .inr (.inl ⟨n, client, claims, accepted, .inr answered⟩)
  · exact .inr (.inr (.inl renewed))
  · exact .inr (.inr (.inr other))

theorem processSolicit_outcome (type : p 48 = solicit) :
    Outcome config line session p l (processSolicit config line session p l (foundIn p l)) := by
  unfold processSolicit
  cases client : (foundIn p l).clientid with
  | none => exact .inl (unanswered_dropped _)
  | some n =>
      simp only
      by_cases rapid : (foundIn p l).rapidcommit.isSome
      · rw [if_pos rapid]
        by_cases accepted : (claimClient session (optionsOf p) l n).accepted
        · rw [if_neg (not_not.mpr accepted)]
          refine .inr (.inl ⟨n, client, .inr ⟨type, rapid⟩, accepted, ?_⟩)
          split_ifs
          · exact .inl (unanswered_dropped _)
          · exact .inr ⟨rfl, rfl⟩
        · rw [if_pos accepted, claimClient_refused accepted]
          exact .inl (unanswered_dropped _)
      · rw [if_neg rapid, if_neg (by simp)]
        split_ifs
        · exact .inl (unanswered_dropped _)
        · refine .inr (.inr (.inr ⟨.inr ⟨type, ?_⟩, rfl, rfl⟩))
          simpa using rapid

theorem processRequest_outcome (type : p 48 = request) :
    Outcome config line session p l (processRequest config line session p l (foundIn p l)) := by
  unfold processRequest
  cases client : (foundIn p l).clientid with
  | none => exact .inl (unanswered_dropped _)
  | some n =>
      cases named : (foundIn p l).serverid with
      | none => exact .inl (unanswered_dropped _)
      | some server =>
          simp only
          by_cases ours : ourServer config (optionsOf p) server
          · rw [if_neg (not_not.mpr ours)]
            by_cases accepted : (claimClient session (optionsOf p) l n).accepted
            · rw [if_neg (not_not.mpr accepted)]
              exact .inr (.inl ⟨n, client, .inl ⟨type, server, named, ours⟩, accepted,
                .inr ⟨rfl, rfl⟩⟩)
            · rw [if_pos accepted, claimClient_refused accepted]
              exact .inl (unanswered_dropped _)
          · rw [if_pos ours]
            exact .inl (unanswered_dropped _)

theorem processRenew_outcome (type : p 48 = renew) (delegates : session.Delegates) :
    Outcome config line session p l (processRenew config line session p l (foundIn p l)) := by
  unfold processRenew
  cases client : (foundIn p l).clientid with
  | none => exact .inl (unanswered_dropped _)
  | some n =>
      simp only
      by_cases same : sameClient session (optionsOf p) n
      · rw [if_neg (by simpa [compareClient] using same)]
        cases named : (foundIn p l).serverid with
        | none => exact .inl (unanswered_dropped _)
        | some server =>
            simp only
            by_cases ours : ourServer config (optionsOf p) server
            · rw [if_neg (not_not.mpr ours)]
              exact .inr (.inr (.inl ⟨type, delegates, ⟨n, client, same⟩, ⟨server, named, ours⟩,
                rfl, rfl⟩))
            · rw [if_pos ours]
              exact .inl (unanswered_dropped _)
      · rw [if_pos (by simpa [compareClient] using same)]
        exact .inl (unanswered_dropped _)

/-- Every message has one of these outcomes. -/
theorem dhcpv6Process_outcome (config : Config) (line : Line) (session : Session) (p : Memory)
    (l : Nat) :
    Outcome config line session p l (dhcpv6Process config line session p l) := by
  rw [dhcpv6Process]
  by_cases delegates : session.Delegates
  · rw [if_neg (not_not.mpr delegates)]
    apply Outcome.after
    rw [← foundIn]
    split_ifs with solicits requests renews informs
    · exact processSolicit_outcome solicits
    · exact processRequest_outcome requests
    · exact processRenew_outcome renews delegates
    · rw [processInformationRequest]
      split_ifs
      · exact .inl (unanswered_dropped _)
      · exact .inr (.inr (.inr ⟨.inl informs, rfl, rfl⟩))
    · exact .inl (unanswered_dropped _)
  · rw [if_pos delegates]
    exact .inl (unanswered_dropped _)

/-- A session with the identifiers of the last request or solicitation with rapid commit that was
answered, if there were any in one. -/
structure Lease where
  session : Session
  pdIaid : Option (List UInt8)
  naIaid : Option (List UInt8)

/-- What happens to a session while it lives: a message, or a change of what is no part of the
binding. -/
inductive Event where
  | message (line : Line) (p : Memory) (l : Nat)
  | change (ip : UInt32) (ipv6address : In6Addr) (route6 : Vector Route6 5)

/-- The lease after a message. -/
def Lease.receive (config : Config) (line : Line) (lease : Lease) (p : Memory) (l : Nat) : Lease :=
  let handled := dhcpv6Process config line lease.session p l
  let found := foundIn p l
  let iaid := iaid (optionsOf p)
  if handled.answer.isSome ∧ Records (p 48) found then
    ⟨handled.session, (found.iaPd.map iaid).or lease.pdIaid, (found.iaNa.map iaid).or lease.naIaid⟩
  else { lease with session := handled.session }

def Lease.next (config : Config) (lease : Lease) : Event → Lease
  | .message line p l => lease.receive config line p l
  | .change ip ipv6address route6 =>
      { lease with
        session := { lease.session with ip := ip, ipv6address := ipv6address, route6 := route6 } }

/-- A session from its start on, when nothing is recorded. -/
def leaseSystem (config : Config) : TransitionSystem Lease Event where
  initial lease := lease.pdIaid = none ∧ lease.naIaid = none ∧
    lease.session.dhcpv6ClientId = (fun _ => 0) ∧
    lease.session.dhcpv6PrefixIaid = List.replicate 4 0 ∧
    lease.session.dhcpv6IanaIaid = List.replicate 4 0
  step lease event next := next = lease.next config event

/-- What is recorded is in the session; what is not is zero there. -/
structure Lease.Recorded (lease : Lease) : Prop where
  pd : lease.session.dhcpv6PrefixIaid = lease.pdIaid.getD (List.replicate 4 0)
  na : lease.session.dhcpv6IanaIaid = lease.naIaid.getD (List.replicate 4 0)

theorem dhcp6SendReply_session (answered : Answered (p 48)) :
    (dhcp6SendReply config line session p l found).session =
      { session with
        dhcpv6PrefixIaid :=
          if Records (p 48) found then
            (found.iaPd.map (iaid (optionsOf p))).getD session.dhcpv6PrefixIaid
          else session.dhcpv6PrefixIaid
        dhcpv6IanaIaid :=
          if Records (p 48) found then
            (found.iaNa.map (iaid (optionsOf p))).getD session.dhcpv6IanaIaid
          else session.dhcpv6IanaIaid } :=
  replyOptions_session answered

theorem Claims.answered (claims : Claims config p found) :
    Answered (p 48) ∧ Records (p 48) found := by
  rcases claims with ⟨type, -⟩ | both
  · exact ⟨.inr (.inl type), .inl type⟩
  · exact ⟨.inl both.1, .inr both⟩

theorem Recorded.records {lease : Lease} (recorded : lease.Recorded) {next : Session}
    {pd na : Option (List UInt8)}
    (pdNext : next.dhcpv6PrefixIaid = pd.getD lease.session.dhcpv6PrefixIaid)
    (naNext : next.dhcpv6IanaIaid = na.getD lease.session.dhcpv6IanaIaid) :
    Lease.Recorded ⟨next, pd.or lease.pdIaid, na.or lease.naIaid⟩ := by
  refine ⟨?_, ?_⟩
  · rw [pdNext, recorded.pd]
    cases pd <;> rfl
  · rw [naNext, recorded.na]
    cases na <;> rfl

theorem AnsweredFrom.some {handled : Handled}
    (answered : AnsweredFrom config line p l session handled) : handled.answer.isSome := by
  rw [answered.2]
  rfl

theorem AnsweredFrom.unrecorded {handled : Handled}
    (answered : AnsweredFrom config line p l session handled) (type : Answered (p 48))
    (unrecorded : ¬ Records (p 48) (foundIn p l)) : handled.session = session := by
  rw [answered.1, dhcp6SendReply_session type]
  simp only [unrecorded, if_false]

theorem renew_unrecorded (type : p 48 = renew) : ¬ Records (p 48) found := by
  rw [type]
  rintro (same | ⟨same, -⟩)
  · exact absurd same (by decide)
  · exact absurd same (by decide)

theorem plain_unrecorded
    (type : p 48 = informationRequest ∨ p 48 = solicit ∧ found.rapidcommit = none) :
    Answered (p 48) ∧ ¬ Records (p 48) found := by
  rcases type with type | ⟨type, plain⟩
  · refine ⟨.inr (.inr (.inr type)), ?_⟩
    rw [type]
    rintro (same | ⟨same, -⟩)
    · exact absurd same (by decide)
    · exact absurd same (by decide)
  · refine ⟨.inl type, ?_⟩
    rintro (same | ⟨-, rapid⟩)
    · exact absurd (type.symm.trans same) (by decide)
    · rw [plain] at rapid
      exact absurd rapid (by simp)

/-- Every message keeps what is recorded in step with the session. -/
theorem Lease.Recorded.receive {lease : Lease} (recorded : lease.Recorded) (p : Memory) (l : Nat) :
    (lease.receive config line p l).Recorded := by
  have outcome := dhcpv6Process_outcome config line lease.session p l
  rw [Lease.receive]
  generalize dhcpv6Process config line lease.session p l = handled at outcome
  -- a message that is not answered, and whose session has the same identifiers
  have dropping {session : Session} (dropped : Dropped session handled)
      (pd : session.dhcpv6PrefixIaid = lease.session.dhcpv6PrefixIaid)
      (na : session.dhcpv6IanaIaid = lease.session.dhcpv6IanaIaid) :
      (if handled.answer.isSome ∧ Records (p 48) (foundIn p l) then
        ⟨handled.session, ((foundIn p l).iaPd.map (iaid (optionsOf p))).or lease.pdIaid,
          ((foundIn p l).iaNa.map (iaid (optionsOf p))).or lease.naIaid⟩
        else { lease with session := handled.session } : Lease).Recorded := by
    rw [if_neg (by simp [dropped.answer]), dropped.session]
    exact ⟨pd.trans recorded.pd, na.trans recorded.na⟩
  -- a message that is answered without recording anything
  have passing (answered : AnsweredFrom config line p l lease.session handled)
      (type : Answered (p 48)) (unrecorded : ¬ Records (p 48) (foundIn p l)) :
      (if handled.answer.isSome ∧ Records (p 48) (foundIn p l) then
        ⟨handled.session, ((foundIn p l).iaPd.map (iaid (optionsOf p))).or lease.pdIaid,
          ((foundIn p l).iaNa.map (iaid (optionsOf p))).or lease.naIaid⟩
        else { lease with session := handled.session } : Lease).Recorded := by
    rw [if_neg fun both => unrecorded both.2, answered.unrecorded type unrecorded]
    exact ⟨recorded.pd, recorded.na⟩
  rcases outcome with dropped | ⟨n, -, claims, -, dropped | answered⟩ | renewed | ⟨type, answered⟩
  · exact dropping dropped rfl rfl
  · have kept := (@claimClient_session lease.session l (optionsOf p) n).2
    exact dropping dropped (by rw [kept]) (by rw [kept])
  · have kept := (@claimClient_session lease.session l (optionsOf p) n).2
    obtain ⟨type, records⟩ := claims.answered
    have session := answered.1
    rw [dhcp6SendReply_session type] at session
    simp only [records, if_true] at session
    rw [if_pos ⟨answered.some, records⟩]
    refine Recorded.records recorded ?_ ?_
    · rw [session, kept]
    · rw [session, kept]
  · exact passing renewed.2.2.2.2 (.inr (.inr (.inl renewed.1))) (renew_unrecorded renewed.1)
  · obtain ⟨answers, unrecorded⟩ := plain_unrecorded type
    exact passing answered answers unrecorded

theorem recorded_of_reachable {lease : Lease}
    (reached : (leaseSystem config).Reachable lease) : lease.Recorded := by
  induction reached with
  | initial start =>
      obtain ⟨pd, na, -, pdZero, naZero⟩ := start
      exact ⟨by rw [pd, pdZero]; rfl, by rw [na, naZero]; rfl⟩
  | step event _ _ moves ih =>
      rw [moves]
      cases event with
      | message line p l => exact ih.receive p l
      | change ip ipv6address route6 => exact ⟨ih.pd, ih.na⟩

/-- The answer for delegated prefixes, of a session that has the identifier or not. -/
def pdAnswer (config : Config) (session : Session) (iaid : List UInt8) (bound : Prop)
    [Decidable bound] : List UInt8 :=
  if bound then
    iaHead config optIaPd (12 + 29 * session.prefixes.length) iaid ++
      session.prefixes.flatMap (iaPrefixOption config)
  else iaHead config optIaPd (12 + 6) iaid ++ statusOption statusNoBinding

/-- The answer for an address, of a session that has the identifier or not. -/
def naAnswer (config : Config) (session : Session) (iaid : List UInt8) (bound : Prop)
    [Decidable bound] : List UInt8 :=
  if bound then iaHead config optIaNa (12 + 28) iaid ++ iaAddrOption config session
  else iaHead config optIaNa (12 + 6) iaid ++ statusOption statusNoBinding

/-- The options behind the prefixes and the address of a renewal. -/
def renewalEnd (config : Config) (p : Memory) (found : InOption) : List UInt8 :=
  let options := optionsOf p
  let ta := found.iaTa.elim [] fun n => iaTaAnswer (iaid options n)
  let oro := found.oro.elim [] fun n => (demands options n).flatMap (demanded config)
  ta ++ oro ++ (bytes16 optPreference ++ bytes16 1 ++ [255])

/-- The answer to a renewal with these associations. -/
def renewalWith (config : Config) (p : Memory) (found : InOption) (pd na : List UInt8) :
    List UInt8 :=
  udpPacket replySource.toList (readBytes p 8 16) 547 546
    (reply :: readBytes p 49 3 ++ (localServerid config ++
      found.clientid.elim [] (optionBytes (optionsOf p)) ++ pd ++ na ++ renewalEnd config p found))

/-- What a renewal is to be answered with: what is recorded, or that there is no binding. -/
def Lease.renewal (config : Config) (lease : Lease) (p : Memory) (found : InOption) :
    List UInt8 :=
  let iaid := iaid (optionsOf p)
  renewalWith config p found
    (found.iaPd.elim [] fun n =>
      pdAnswer config lease.session (iaid n) (lease.pdIaid = some (iaid n)))
    (found.iaNa.elim [] fun n =>
      naAnswer config lease.session (iaid n) (lease.naIaid = some (iaid n)))

theorem iaPdAnswer_renew (iaid : List UInt8) :
    (iaPdAnswer config session renew rapid iaid).2 =
      pdAnswer config session iaid (session.dhcpv6PrefixIaid = iaid) := by
  rw [iaPdAnswer, pdAnswer]
  by_cases same : session.dhcpv6PrefixIaid = iaid
  · rw [if_neg fun both => both.2 same, if_pos same]
  · rw [if_pos ⟨rfl, same⟩, if_neg same]

theorem iaNaAnswer_renew (iaid : List UInt8) :
    (iaNaAnswer config session renew rapid iaid).2 =
      naAnswer config session iaid (session.dhcpv6IanaIaid = iaid) := by
  rw [iaNaAnswer, naAnswer]
  by_cases same : session.dhcpv6IanaIaid = iaid
  · rw [if_neg fun both => both.2 same, if_pos same]
  · rw [if_pos ⟨rfl, same⟩, if_neg same]

theorem dhcp6SendReply_renew (type : p 48 = renew) :
    (dhcp6SendReply config line session p l found).answer =
      some (renewalWith config p found
        (found.iaPd.elim [] fun n =>
          pdAnswer config session (iaid (optionsOf p) n)
            (session.dhcpv6PrefixIaid = iaid (optionsOf p) n))
        (found.iaNa.elim [] fun n =>
          naAnswer config session (iaid (optionsOf p) n)
            (session.dhcpv6IanaIaid = iaid (optionsOf p) n))) := by
  have noSolicit : ¬ renew = solicit := by decide
  have other : renew ≠ informationRequest := by decide
  have noRequest : ¬ renew = request := by decide
  simp only [dhcp6SendReply, replyOptions, type, noSolicit, other, ne_eq, not_false_eq_true,
    if_true, false_and, and_false, if_false, renewalWith, renewalEnd]
  cases found.iaPd <;> cases found.iaNa <;> cases found.iaTa <;>
    simp only [iaPdAnswer_renew, iaNaAnswer_renew, iaPdAnswer_session, noRequest, false_or,
      not_true_eq_false, false_and, if_false, Option.elim_some, Option.elim_none, List.append_nil,
      List.nil_append, List.append_assoc, ne_eq]

theorem udpPacket_payload {src dst : List UInt8} (srcSize : src.length = 16)
    (dstSize : dst.length = 16) (source dest : Nat) (payload : List UInt8) :
    (udpPacket src dst source dest payload).drop 48 = payload := by
  have split (front : List UInt8) (size : front.length = 48) :
      (front ++ payload).drop 48 = payload := by
    rw [← size, List.drop_left]
  simp only [udpPacket]
  generalize ipv6Checksum _ _ = check
  have headers : (ip6Header (8 + payload.length) 17 1 src dst ++ (bytes16 source ++ bytes16 dest ++
      bytes16 (8 + payload.length) ++ bytes16 check)).length = 48 := by
    simp [ip6Header, bytes16, srcSize, dstSize]
  simpa only [List.append_assoc] using split _ headers

theorem bytes16_inj {a b : Nat} (aSmall : a < 2 ^ 16) (bSmall : b < 2 ^ 16)
    (same : bytes16 a = bytes16 b) : a = b := by
  simp only [bytes16, List.cons.injEq, ← UInt8.toNat_inj, UInt8.toNat_ofNat', and_true] at same
  omega

theorem iaHead_len {code a b : Nat} (aSmall : a < 2 ^ 16) (bSmall : b < 2 ^ 16)
    {iaid : List UInt8} {rest more : List UInt8}
    (same : iaHead config code a iaid ++ rest = iaHead config code b iaid ++ more) : a = b := by
  have parts (len : Nat) (behind : List UInt8) : iaHead config code len iaid ++ behind =
      bytes16 code ++ (bytes16 len ++ (iaid ++ (lifetime config.dhcp6PreferredLifetime
        (config.dhcp6PreferredLifetime / 2) ++ (lifetime config.dhcp6PreferredLifetime
          (config.dhcp6PreferredLifetime * 4 / 5) ++ behind)))) := by
    simp only [iaHead, List.append_assoc]
  rw [parts, parts] at same
  exact bytes16_inj aSmall bSmall (List.append_inj (List.append_cancel_left same) rfl).1

theorem prefixes_length : session.prefixes.length ≤ 5 := by
  rw [Session.prefixes]
  have sub := (session.route6.toList.takeWhile_sublist fun route => decide route.IsSet).length_le
  simpa using sub

theorem iaHead_iff {bound other : Prop} [Decidable bound] [Decidable other] {code a b : Nat}
    (aSmall : a < 2 ^ 16) (bSmall : b < 2 ^ 16) (differ : a ≠ b)
    {iaid inside status rest more : List UInt8} :
    (if bound then iaHead config code a iaid ++ inside else iaHead config code b iaid ++ status) ++
          rest =
        (if other then iaHead config code a iaid ++ inside
          else iaHead config code b iaid ++ status) ++ more ↔
      (bound ↔ other) ∧ rest = more := by
  by_cases first : bound
  · by_cases second : other
    · simp [first, second]
    · simp only [first, second, if_true, if_false, List.append_assoc, iff_false, not_true_eq_false,
        false_and]
      exact fun same => differ (iaHead_len aSmall bSmall same)
  · by_cases second : other
    · simp only [first, second, if_true, if_false, List.append_assoc, iff_true, false_and,
        iff_false]
      exact fun same => differ (iaHead_len aSmall bSmall same.symm)
    · simp [first, second]

theorem pdAnswer_iff {iaid : List UInt8} {bound other : Prop} [Decidable bound] [Decidable other]
    {rest more : List UInt8} :
    pdAnswer config session iaid bound ++ rest = pdAnswer config session iaid other ++ more ↔
      (bound ↔ other) ∧ rest = more := by
  have few := @prefixes_length session
  exact iaHead_iff (by omega) (by omega) (by omega)

theorem naAnswer_iff {iaid : List UInt8} {bound other : Prop} [Decidable bound] [Decidable other]
    {rest more : List UInt8} :
    naAnswer config session iaid bound ++ rest = naAnswer config session iaid other ++ more ↔
      (bound ↔ other) ∧ rest = more :=
  iaHead_iff (by omega) (by omega) (by omega)

theorem renewalWith_iff {pd na pd' na' : List UInt8} :
    renewalWith config p found pd na = renewalWith config p found pd' na' ↔
      pd ++ (na ++ renewalEnd config p found) = pd' ++ (na' ++ renewalEnd config p found) := by
  have source : replySource.toList.length = 16 := by simp
  have address : (readBytes p 8 16).length = 16 := readBytes_length p 8 16
  constructor
  · intro same
    have payload := congrArg (List.drop 48) same
    rw [renewalWith, renewalWith, udpPacket_payload source address,
      udpPacket_payload source address] at payload
    simpa using payload
  · intro same
    simp only [renewalWith, List.append_assoc]
    rw [same]

theorem recorded_iff {kept iaid : List UInt8} {recorded : Option (List UInt8)}
    (same : kept = recorded.getD (List.replicate 4 0)) :
    (kept = iaid ↔ recorded = some iaid) ↔ (iaid = List.replicate 4 0 → recorded ≠ none) := by
  cases recorded with
  | none =>
      rw [same]
      simp [eq_comm]
  | some known =>
      rw [same]
      simp

/-- **The answer to a renewal** is what it is to be, unless an identifier of zero is taken for
recorded. -/
theorem dhcp6SendReply_renewal {lease : Lease} (recorded : lease.Recorded) (type : p 48 = renew) :
    (dhcp6SendReply config line lease.session p l found).answer =
        some (lease.renewal config p found) ↔
      (∀ n ∈ found.iaPd, iaid (optionsOf p) n = List.replicate 4 0 → lease.pdIaid ≠ none) ∧
        ∀ n ∈ found.iaNa, iaid (optionsOf p) n = List.replicate 4 0 → lease.naIaid ≠ none := by
  rw [dhcp6SendReply_renew type, Option.some_inj, Lease.renewal, renewalWith_iff]
  have pd (n : Nat) := @recorded_iff _ (iaid (optionsOf p) n) _ recorded.pd
  have na (n : Nat) := @recorded_iff _ (iaid (optionsOf p) n) _ recorded.na
  cases found.iaPd <;> cases found.iaNa <;>
    simp only [Option.elim_some, Option.elim_none, List.nil_append, pdAnswer_iff, naAnswer_iff, pd,
      na, Option.mem_def, Option.some_inj, forall_eq', reduceCtorEq, false_implies, implies_true,
      and_true, true_and]

variable {lease : Lease}

/-- What a message may do to a binding. -/
structure StepKept (config : Config) (line : Line) (lease : Lease) (p : Memory) (l : Nat) : Prop
    where
  /-- Only a request to this server or a solicitation with rapid commit records a client, and
  only if none is recorded. -/
  recorded :
    let handled := dhcpv6Process config line lease.session p l
    handled.session.dhcpv6ClientId ≠ lease.session.dhcpv6ClientId →
      lease.session.hasClient = false ∧ Claims config p (foundIn p l)
  /-- Another client is not served. -/
  served :
    let found := foundIn p l
    lease.session.hasClient →
      p 48 = request ∨ p 48 = renew ∨ p 48 = solicit ∧ found.rapidcommit.isSome →
      (∀ n ∈ found.clientid, ¬ sameClient lease.session (optionsOf p) n) →
        Dropped lease.session (dhcpv6Process config line lease.session p l)
  /-- A renewal is answered from what is recorded. -/
  renewed :
    p 48 = renew → ∀ packet ∈ (dhcpv6Process config line lease.session p l).answer,
      packet = lease.renewal config p (foundIn p l)

/-- A renewal from the recorded client to this server. -/
def RenewAccepted (config : Config) (lease : Lease) (p : Memory) (l : Nat) : Prop :=
  let found := foundIn p l
  p 48 = renew ∧ lease.session.Delegates ∧
    (∃ n ∈ found.clientid, sameClient lease.session (optionsOf p) n) ∧
    ∃ server ∈ found.serverid, ourServer config (optionsOf p) server

/-- An identifier of zero is renewed only if one was recorded. -/
def Renewable (config : Config) (lease : Lease) (p : Memory) (l : Nat) : Prop :=
  let found := foundIn p l
  RenewAccepted config lease p l →
    (∀ n ∈ found.iaPd, iaid (optionsOf p) n = List.replicate 4 0 → lease.pdIaid ≠ none) ∧
      ∀ n ∈ found.iaNa, iaid (optionsOf p) n = List.replicate 4 0 → lease.naIaid ≠ none

theorem renew_types : ¬ renew = solicit ∧ ¬ renew = request ∧ ¬ renew = informationRequest := by
  decide

theorem RenewAccepted.answer (accepted : RenewAccepted config lease p l) :
    (dhcpv6Process config line lease.session p l).answer =
      (dhcp6SendReply config line lease.session p l (foundIn p l)).answer := by
  obtain ⟨type, delegates, ⟨n, client, same⟩, server, named, ours⟩ := accepted
  obtain ⟨noSolicit, noRequest, -⟩ := renew_types
  rw [Option.mem_def] at client named
  have renewed : (processRenew config line lease.session p l (foundIn p l)).answer =
      (dhcp6SendReply config line lease.session p l (foundIn p l)).answer := by
    simp only [processRenew, client, named, compareClient, same, ours, decide_true,
      not_true_eq_false, if_false, Handled.after]
  rw [dhcpv6Process, if_neg (not_not.mpr delegates), ← foundIn]
  simp only [type, noSolicit, noRequest, if_true, if_false, Handled.after]
  exact renewed

theorem AnsweredFrom.client {handled : Handled}
    (answered : AnsweredFrom config line p l session handled) (type : Answered (p 48)) :
    handled.session.dhcpv6ClientId = session.dhcpv6ClientId := by
  rw [answered.1, dhcp6SendReply_session type]

theorem claimClient_known {n : Nat}
    (changed : (claimClient session options l n).session.dhcpv6ClientId ≠ session.dhcpv6ClientId) :
    session.hasClient = false := by
  by_contra known
  rw [Bool.not_eq_false] at known
  exact changed (by rw [(claimClient_session n).1 known])

theorem dhcpv6Process_recorded
    (changed : (dhcpv6Process config line session p l).session.dhcpv6ClientId ≠
      session.dhcpv6ClientId) :
    session.hasClient = false ∧ Claims config p (foundIn p l) := by
  rcases dhcpv6Process_outcome config line session p l with
    dropped | ⟨n, -, claims, -, dropped | answered⟩ | renewed | ⟨type, answered⟩
  · exact absurd (by rw [dropped.session]) changed
  · rw [dropped.session] at changed
    exact ⟨claimClient_known changed, claims⟩
  · rw [answered.client claims.answered.1] at changed
    exact ⟨claimClient_known changed, claims⟩
  · exact absurd (renewed.2.2.2.2.client (.inr (.inr (.inl renewed.1)))) changed
  · exact absurd (answered.client (plain_unrecorded type).1) changed

theorem dhcpv6Process_served (known : session.hasClient)
    (type : p 48 = request ∨ p 48 = renew ∨ p 48 = solicit ∧ (foundIn p l).rapidcommit.isSome)
    (other : ∀ n ∈ (foundIn p l).clientid, ¬ sameClient session (optionsOf p) n) :
    Dropped session (dhcpv6Process config line session p l) := by
  rcases dhcpv6Process_outcome config line session p l with
    dropped | ⟨n, client, -, accepted, -⟩ | ⟨-, -, ⟨n, client, same⟩, -⟩ | ⟨plain, -⟩
  · exact dropped
  · exact absurd ((claimClient_accepted known).mp accepted) (other n client)
  · exact absurd same (other n client)
  · obtain ⟨-, unrecorded⟩ := plain_unrecorded plain
    rcases type with type | type | both
    · exact absurd (.inl type) unrecorded
    · obtain ⟨noSolicit, -, noInformation⟩ := renew_types
      rw [type] at plain
      rcases plain with same | ⟨same, -⟩
      · exact absurd same noInformation
      · exact absurd same noSolicit
    · exact absurd (.inr both) unrecorded

theorem dhcpv6Process_renewed {packet : List UInt8} (type : p 48 = renew)
    (answered : packet ∈ (dhcpv6Process config line lease.session p l).answer) :
    RenewAccepted config lease p l := by
  obtain ⟨noSolicit, noRequest, noInformation⟩ := renew_types
  rcases dhcpv6Process_outcome config line lease.session p l with
    dropped | ⟨n, -, claims, -⟩ | ⟨-, delegates, client, server, -⟩ | ⟨plain, -⟩
  · rw [dropped.answer] at answered
    exact nomatch answered
  · exact absurd claims.answered.2 (renew_unrecorded type)
  · exact ⟨type, delegates, client, server⟩
  · rw [type] at plain
    rcases plain with same | ⟨same, -⟩
    · exact absurd same noInformation
    · exact absurd same noSolicit

/-- What one message may do, in any state that keeps what is recorded. -/
theorem stepKept_iff (recorded : lease.Recorded) :
    StepKept config line lease p l ↔ Renewable config lease p l := by
  constructor
  · intro kept accepted
    have answer := @RenewAccepted.answer config line p l lease accepted
    exact (@dhcp6SendReply_renewal config line p l _ lease recorded accepted.1).mp
      (congrArg some (kept.renewed accepted.1 _ answer))
  · intro renewable
    refine ⟨dhcpv6Process_recorded, dhcpv6Process_served, fun type packet answered => ?_⟩
    have accepted := dhcpv6Process_renewed type answered
    rw [accepted.answer, (dhcp6SendReply_renewal recorded type).mpr (renewable accepted)]
      at answered
    exact (Option.some_inj.mp answered).symm

/-- The lease after some events. -/
def Lease.run (config : Config) (lease : Lease) (events : List Event) : Lease :=
  events.foldl (fun lease event => lease.next config event) lease

/-- Every message of a run keeps the binding, and a client that is recorded stays. -/
structure BindingKept (config : Config) (start : Lease) (events : List Event) : Prop where
  steps : ∀ before line p l after, events = before ++ .message line p l :: after →
    StepKept config line (start.run config before) p l
  stays : ∀ before after, events = before ++ after →
    (start.run config before).session.hasClient →
    (start.run config events).session.dhcpv6ClientId =
      (start.run config before).session.dhcpv6ClientId

theorem run_append (start : Lease) (before after : List Event) :
    start.run config (before ++ after) =
      (start.run config before).run config after :=
  List.foldl_append

theorem reachable_run (fresh : (leaseSystem config).initial lease) (events : List Event) :
    (leaseSystem config).Reachable (lease.run config events) := by
  induction events using List.reverseRecOn with
  | nil => exact .initial fresh
  | append_singleton before event ih =>
      rw [run_append]
      exact .step event ih trivial rfl

theorem next_client (known : lease.session.hasClient) (event : Event) :
    (lease.next config event).session.dhcpv6ClientId = lease.session.dhcpv6ClientId := by
  cases event with
  | message line p l =>
      have kept : (dhcpv6Process config line lease.session p l).session.dhcpv6ClientId =
          lease.session.dhcpv6ClientId := by
        by_contra changed
        exact absurd (dhcpv6Process_recorded changed).1 (by rw [known]; decide)
      rw [Lease.next, Lease.receive]
      split_ifs <;> exact kept
  | change ip ipv6address route6 => rfl

theorem run_client (known : lease.session.hasClient) (events : List Event) :
    (lease.run config events).session.dhcpv6ClientId = lease.session.dhcpv6ClientId := by
  induction events generalizing lease with
  | nil => rfl
  | cons event events ih =>
      have same := @next_client config lease known event
      have still : (lease.next config event).session.hasClient := by
        rw [Session.hasClient, same]
        exact known
      exact (ih still).trans same

/-- **A binding belongs to one client** in a run exactly if no renewal that is accepted has an
identifier of zero where none was recorded. -/
theorem binding_kept_iff (fresh : (leaseSystem config).initial lease) (events : List Event) :
    BindingKept config lease events ↔
      ∀ before line p l after, events = before ++ .message line p l :: after →
        Renewable config (lease.run config before) p l := by
  have step (before : List Event) (line : Line) (p : Memory) (l : Nat) :=
    @stepKept_iff config line p l _ (recorded_of_reachable (reachable_run fresh before))
  constructor
  · intro kept before line p l after split
    exact (step before line p l).mp (kept.steps before line p l after split)
  · intro renewable
    refine ⟨fun before line p l after split => ?_, fun before after split known => ?_⟩
    · exact (step before line p l).mpr (renewable before line p l after split)
    · rw [split, run_append]
      exact run_client known after

/-- A client that asks for nothing with rapid commit. -/
def committing : Memory := clientPacket 21 solicit [0, 1, 0, 1, 7, 0, 14, 0, 0]

/-- The same client renews prefixes with the identifier zero. -/
def renewing : Memory :=
  clientPacket 45 renew
    ([0, 1, 0, 1, 7] ++ localServerid plainConfig ++ [0, 25, 0, 12] ++ List.replicate 12 0)

theorem foundIn_committing :
    foundIn committing 61 = ⟨some 0, none, none, none, none, none, some 5, true⟩ := by
  have visits : (optionsOf committing).visited 0 = [0, 5] := by
    rw [TagList.visited_next (by decide),
      show 0 + (4 + (optionsOf committing).length 0) = 5 by decide,
      TagList.visited_next (by decide),
      show 5 + (4 + (optionsOf committing).length 5) = 9 by decide,
      TagList.visited_end (by decide)]
  rw [foundIn, TagList.walk_eq, visits]
  decide

theorem foundIn_renewing :
    foundIn renewing 85 = ⟨some 0, some 5, none, none, some 17, none, none, true⟩ := by
  have visits : (optionsOf renewing).visited 0 = [0, 5, 17] := by
    rw [TagList.visited_next (by decide),
      show 0 + (4 + (optionsOf renewing).length 0) = 5 by decide,
      TagList.visited_next (by decide),
      show 5 + (4 + (optionsOf renewing).length 5) = 17 by decide,
      TagList.visited_next (by decide),
      show 17 + (4 + (optionsOf renewing).length 17) = 33 by decide,
      TagList.visited_end (by decide)]
  rw [foundIn, TagList.walk_eq, visits]
  decide

/-- A session that has recorded nothing. -/
def unbound : Lease := ⟨delegating, none, none⟩

theorem unbound_committing :
    unbound.run plainConfig [.message plainLine committing 61] =
      ⟨{ delegating with
          dhcpv6ClientId := writeBytes (fun _ => 0) 0 (optionBytes (optionsOf committing) 0) },
        none, none⟩ := by
  have handled :
      (dhcpv6Process plainConfig plainLine delegating committing 61).answer.isSome ∧
        (dhcpv6Process plainConfig plainLine delegating committing 61).session =
          { delegating with
            dhcpv6ClientId :=
              writeBytes (fun _ => 0) 0 (optionBytes (optionsOf committing) 0) } := by
    rw [dhcpv6Process, if_neg (by decide), ← foundIn, foundIn_committing]
    exact ⟨rfl, rfl⟩
  have records : Records (committing 48) (foundIn committing 61) := by
    rw [foundIn_committing]
    decide
  simp only [Lease.run, List.foldl_cons, List.foldl_nil, Lease.next, Lease.receive]
  rw [if_pos ⟨handled.1, records⟩, unbound, handled.2, foundIn_committing]
  rfl

/-- The first message of a run alone keeps its binding. -/
theorem binding_kept_committing :
    BindingKept plainConfig unbound [.message plainLine committing 61] := by
  refine (binding_kept_iff ⟨rfl, rfl, rfl, rfl, rfl⟩ _).mpr fun before line p l after split => ?_
  rcases List.cons_eq_append_iff.mp split with ⟨rfl, same⟩ | ⟨rest, -, same⟩
  · obtain ⟨⟨rfl, rfl, rfl⟩, -⟩ := by simpa using same
    exact fun accepted => absurd accepted.1 (by decide)
  · simp at same

/-- The renewal is answered with prefixes though no identifier was recorded. -/
theorem binding_zero_renewed :
    (leaseSystem plainConfig).initial unbound ∧
      ¬ BindingKept plainConfig unbound
        [.message plainLine committing 61, .message plainLine renewing 85] := by
  have fresh : (leaseSystem plainConfig).initial unbound := ⟨rfl, rfl, rfl, rfl, rfl⟩
  refine ⟨fresh, fun kept => ?_⟩
  have step := kept.steps [.message plainLine committing 61] plainLine renewing 85 [] rfl
  rw [stepKept_iff (recorded_of_reachable (reachable_run fresh _)), unbound_committing] at step
  have accepted : RenewAccepted plainConfig
      ⟨{ delegating with
          dhcpv6ClientId := writeBytes (fun _ => 0) 0 (optionBytes (optionsOf committing) 0) },
        none, none⟩ renewing 85 := by
    rw [RenewAccepted, foundIn_renewing]
    exact ⟨by decide, by decide, ⟨0, rfl, by decide⟩, 5, rfl, by decide⟩
  have zero := (step accepted).1
  rw [foundIn_renewing] at zero
  exact zero 17 rfl (by decide) rfl

end L2tpns.Dhcp6
