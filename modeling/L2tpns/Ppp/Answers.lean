import L2tpns.Ppp.Dialects

/-! # Configuration requests are answered

A well-formed request that is considered, in a state in which the automaton replies, is answered
by a rejection of the options without an alternative, else by suggestions, else by an
acknowledgement, exactly if the request is sound (`L2tpns.Answering.requests_answered_iff`). It is
sound if the options that call for an answer are acted on, there is room for the answer and nothing
is overdue; the network protocols also need lengths that are right, and an address.
-/

namespace L2tpns.Answering

open Avp (Memory ntohs readBytes writeBytes)
open Server
open Server.Ncp (Request)

variable {st : State} {s t l : Nat} {memory : Memory}

section Requests

variable {proto : Nat} {inquiry : Inquiry} {dialect : Dialect}

/-- The last packet is the answer that a request of `l` bytes calls for. It has the identifier of
the request and its own length, and fits in the buffer. -/
structure Answered (inquiry : Inquiry) (s proto : Nat) (memory : Memory) (l : Nat)
    (sent : List Effect) : Prop where
  sent : sent.getLast? = some (.ppp s proto (inquiry.required memory l))
  framed : ((inquiry.required memory l).drop 1).take 3 =
    memory 1 :: bytes16 (inquiry.required memory l).length
  fits : inquiry.header + (inquiry.required memory l).length ≤ maxEther

namespace Inquiry

theorem bytes16_ntohs (o : Nat) : bytes16 (ntohs memory o) = [memory o, memory (o + 1)] :=
  Server.bytes16_pair _ _

theorem recoded_length {code : UInt8} : (recoded code memory l).length = l := by
  rw [recoded, Avp.readBytes_length]

/-- What is called for has the identifier of the request and its own length. -/
theorem required_framed (four : 4 ≤ l) (length : ntohs memory 2 = l) :
    ((inquiry.required memory l).drop 1).take 3 =
      memory 1 :: bytes16 (inquiry.required memory l).length := by
  have control (code : UInt8) (options : List UInt8) :
      ((controlPacket code (memory 1).toNat options).drop 1).take 3 =
        memory 1 :: bytes16 (controlPacket code (memory 1).toNat options).length := by
    have counted : (controlPacket code (memory 1).toNat options).length = options.length + 4 := by
      simp [controlPacket, bytes16]
    rw [counted]
    simp [controlPacket, bytes16]
  rw [required, Answering.required]
  split
  · exact control _ _
  split
  · exact control _ _
  · have named : bytes16 l = [memory 2, memory 3] := by rw [← length, bytes16_ntohs]
    have behind : l - 1 = 3 + (l - 4) := by omega
    rw [recoded_length, named, recoded, Avp.readBytes_drop, Nat.zero_add, behind,
      Avp.readBytes_append, List.take_left' (Avp.readBytes_length ..)]
    simp [readBytes, List.range_succ, writeBytes]

theorem controlPacket_length {code : UInt8} {ident : Nat} {options : List UInt8} :
    (controlPacket code ident options).length = options.length + 4 := by
  simp [controlPacket, bytes16]

/-- What is called for has room in the buffer. -/
theorem Sound.fits (sound : inquiry.Sound l) :
    inquiry.header + (inquiry.required memory l).length ≤ maxEther := by
  by_cases refuses : ∃ o ∈ inquiry.options, inquiry.Refuses o
  · have room := (sound.rejected refuses).1
    rw [required, Answering.required, if_pos (any_refused.mpr refuses), controlPacket_length]
    omega
  have wanted : ∀ o ∈ inquiry.options, ¬ inquiry.Refuses o :=
    fun o option refused => refuses ⟨o, option, refused⟩
  by_cases improves : ∃ o ∈ inquiry.options, inquiry.Improves o
  · have room := sound.suggested wanted improves
    rw [required, Answering.required, if_neg (mt any_refused.mp refuses),
      if_pos (any_improves.mpr improves), controlPacket_length]
    omega
  · rw [required, Answering.required, if_neg (mt any_refused.mp refuses),
      if_neg (mt any_improves.mp improves), recoded_length]
    exact sound.acknowledged fun o option =>
      ⟨wanted o option, fun improved => improves ⟨o, option, improved⟩⟩

theorem Sized.answers_iff (sized : inquiry.Sized) (four : 4 ≤ l) (length : ntohs memory 2 = l)
    {sent : List Effect}
    (last : sent.getLast? = some (.ppp s proto (inquiry.answer.packet memory l)))
    (room : inquiry.answer.acks = true → inquiry.header + l ≤ maxEther) :
    Answered inquiry s proto memory l sent ↔ inquiry.Sound l := by
  rw [← sized.answered_iff (by omega : 0 < l)]
  constructor
  · intro answered
    have same := answered.sent
    rw [last, Option.some.injEq, Effect.ppp.injEq] at same
    exact ⟨same.2.2, room⟩
  · intro answered
    have sound := (sized.answered_iff (by omega : 0 < l)).mp answered
    exact ⟨by rw [last, answered.1], required_framed four length, sound.fits⟩

theorem required_eq_ack_iff (some : 0 < l) :
    inquiry.required memory l = recoded configAck memory l ↔
      ∀ o ∈ inquiry.options, ¬ inquiry.Refuses o ∧ ¬ inquiry.Improves o := by
  have rejection : configRej ≠ configAck := by decide
  have suggestion : configNak ≠ configAck := by decide
  by_cases refuses : ∃ o ∈ inquiry.options, inquiry.Refuses o
  · rw [required, Answering.required, if_pos (any_refused.mpr refuses)]
    obtain ⟨o, option, refused⟩ := refuses
    exact iff_of_false (fun same => recoded_ne some rejection same.symm) fun good =>
      (good o option).1 refused
  by_cases improves : ∃ o ∈ inquiry.options, inquiry.Improves o
  · rw [required, Answering.required, if_neg (mt any_refused.mp refuses),
      if_pos (any_improves.mpr improves)]
    obtain ⟨o, option, improved⟩ := improves
    exact iff_of_false (fun same => recoded_ne some suggestion same.symm) fun good =>
      (good o option).2 improved
  · rw [required, Answering.required, if_neg (mt any_refused.mp refuses),
      if_neg (mt any_improves.mp improves)]
    exact iff_of_true rfl fun o option =>
      ⟨fun refused => refuses ⟨o, option, refused⟩, fun improved => improves ⟨o, option, improved⟩⟩

/-- What was collected is an acknowledgement if nothing was begun. -/
theorem Sized.packet_eq_ack_iff (sized : inquiry.Sized) (some : 0 < l) :
    inquiry.answer.packet memory l = recoded configAck memory l ↔ inquiry.answer.acks = true := by
  have begun {code : UInt8} {options : List UInt8} {lost : Bool} (other : code ≠ configAck) :
      (Answer.mk (.some ⟨code, options⟩) lost).packet memory l ≠ recoded configAck memory l := by
    intro same
    rw [packet_reply] at same
    cases lost with
    | false => exact recoded_ne some other same.symm
    | true =>
        have lengths := congrArg List.length same
        rw [recoded_length] at lengths
        simp only [↓reduceIte, List.length_nil] at lengths
        omega
  cases refused : inquiry.handled.any (Judged.refused inquiry.exhausted) with
  | true =>
      obtain ⟨next, lost, answer, -⟩ := sized.answer_refused refused
      rw [answer]
      exact iff_of_false (begun (by decide)) nofun
  | false =>
      rcases sized.answer_wanted refused with ⟨-, none⟩ | ⟨-, next, lost, suggests, -⟩
      · rw [none]
        exact iff_of_true packet_none rfl
      · rw [suggests]
        exact iff_of_false (begun (by decide)) nofun

theorem Sized.acks_iff (sized : inquiry.Sized) (some : 0 < l) (sound : inquiry.Sound l) :
    inquiry.answer.acks = true ↔
      ∀ o ∈ inquiry.options, ¬ inquiry.Refuses o ∧ ¬ inquiry.Improves o := by
  have answered := ((@Sized.answered_iff inquiry (fun _ => 0) l sized some).mpr sound).1
  rw [← sized.packet_eq_ack_iff some, answered, required_eq_ack_iff some]

theorem Sized.room (sized : inquiry.Sized) (some : 0 < l) (sound : inquiry.Sound l) :
    inquiry.answer.acks = true → inquiry.header + l ≤ maxEther :=
  ((@Sized.answered_iff inquiry (fun _ => 0) l sized some).mpr sound).2

theorem required_ne_nil (some : 0 < l) : inquiry.required memory l ≠ [] := by
  rw [required, Answering.required]
  split
  · exact controlPacket_ne_nil
  split
  · exact controlPacket_ne_nil
  · intro none
    have length := congrArg List.length none
    rw [recoded_length, List.length_nil] at length
    omega

theorem Sized.kept (sized : inquiry.Sized) (some : 0 < l) (sound : inquiry.Sound l) :
    inquiry.answer.lost = false := by
  have answered := ((@Sized.answered_iff inquiry (fun _ => 0) l sized some).mpr sound).1
  have kept {code : UInt8} {options : List UInt8} {lost : Bool}
      (answer : inquiry.answer = ⟨.some ⟨code, options⟩, lost⟩) : inquiry.answer.lost = false := by
    rw [answer, packet_reply] at answered
    rw [answer]
    cases lost with
    | false => rfl
    | true => exact absurd answered.symm (required_ne_nil some)
  cases refused : inquiry.handled.any (Judged.refused inquiry.exhausted) with
  | true =>
      obtain ⟨next, lost, answer, -⟩ := sized.answer_refused refused
      exact kept answer
  | false =>
      rcases sized.answer_wanted refused with ⟨-, none⟩ | ⟨-, next, lost, suggests, -⟩
      · rw [none]
        rfl
      · exact kept suggests

end Inquiry

theorem Ended.unanswered {ended : State} {packet : List UInt8} (ends : Ended s st ended)
    (silent : st.sent = []) : ended.sent.getLast? ≠ some (.ppp s proto packet) := by
  rcases ends with same | ⟨last, reason, same, rfl⟩
  · rw [same, silent]
    exact nofun
  · rw [sessionshutdown]
    split
    · rw [same, silent]
      exact nofun
    · simp [finishShutdown, State.emit]

/-- A state in which the automaton of LCP replies to a request. -/
def lcpReplies : FsmState → Bool
  | .stopped | .requestSent | .ackReceived | .opened | .ackSent | .closing => true
  | _ => false

/-- A state in which the automaton of a network protocol replies to a request. -/
def networkReplies : FsmState → Bool
  | .stopped | .requestSent | .ackReceived | .opened | .ackSent => true
  | _ => false

theorem lcpReply_last {answer : Answer} (replies : lcpReplies (st.session s).ppp.lcp = true) :
    (lcpReply st s answer memory l).sent.getLast? =
      some (.ppp s pppLcp (answer.packet memory l)) := by
  cases state : (st.session s).ppp.lcp <;> rw [state] at replies
  all_goals first
    | contradiction
    | simp [lcpReply, lcpAnswerReq, state, State.emit]

theorem reply_last {ncp : Ncp} {acks : Bool} {packet : List UInt8}
    (replies : networkReplies ((st.session s).ppp.state ncp.fsm) = true) :
    (ncp.reply st s acks memory packet).sent.getLast? = some (.ppp s ncp.proto packet) := by
  cases state : (st.session s).ppp.state ncp.fsm <;> rw [state] at replies
  all_goals first
    | contradiction
    | simp [Ncp.reply, Ncp.answerReq, state, State.emit]

theorem pppHeader_le : pppHeader st s t proto ≤ 22 := by
  simp only [pppHeader]
  split_ifs <;> omega

theorem optionAt_length (o : Nat) : (optionAt memory o).length = declared memory o :=
  Avp.readBytes_length ..

theorem optionAt_short (o : Nat) : (optionAt memory o).length ≤ 255 := by
  have small := (memory (o + 1)).toNat_lt
  rw [optionAt_length, declared]
  omega

theorem optionAt_ne_nil {o : Nat} (tiled : Tiled memory l) (option : o ∈ tiles memory l) :
    optionAt memory o ≠ [] := by
  have two := (mem_tilesFrom tiled.2 option).2.1
  intro none
  have length := @optionAt_length memory o
  rw [none, List.length_nil] at length
  omega

theorem lcpVerdict_improved {config : Config} {o : Nat} (acts : lcpActs config memory o = true) :
    lcpVerdict config memory o ≠ .improvable [] := by
  intro none
  simp only [lcpActs] at acts
  simp only [lcpVerdict] at none
  split at none
  · split at none <;> simp at none
  · split at none <;> simp at none
  case h_3 auth =>
      simp only [auth, decide_eq_true_eq] at acts
      rw [if_neg fun granted => acts.1 granted.2] at none
      have values := Verdict.improvable.inj none
      simp [authValues, acts.2] at values
  all_goals cases none

theorem lcpInquiry_sized (tiled : Tiled memory l) : (lcpInquiry st s t memory l).Sized where
  header := pppHeader_le
  carried o option acts := by
    rw [lcpInquiry, Bool.and_eq_true] at acts
    exact ⟨optionAt_short o, lcpVerdict_improved acts.2⟩
  nonempty o option := optionAt_ne_nil tiled option

/-- A request of LCP whose header has been checked. -/
theorem lcpConfigReq_answered_iff (silent : st.sent = []) (tiled : Tiled memory l)
    (length : ntohs memory 2 = l) (replies : lcpReplies (st.session s).ppp.lcp = true) :
    Answered (lcpInquiry st s t memory l) s pppLcp memory l (lcpConfigReq st s t memory l).sent ↔
      (lcpInquiry st s t memory l).Sound l := by
  have sized := @lcpInquiry_sized st s t l memory tiled
  have some : 0 < l := Nat.lt_of_lt_of_le (by decide) tiled.1
  obtain ⟨answer, kept⟩ := @lcpWalk_answer st s t l memory tiled
  have session : ((lcpWalk st s t memory l).told s).session =
      (lcpWalk st s t memory l).st.session := by
    rw [Negotiation.told]
    split <;> rfl
  have drops : lcpDrops st s t memory l = true ↔
      ¬ ((lcpInquiry st s t memory l).answer.acks = true →
        (lcpInquiry st s t memory l).header + l ≤ maxEther) := by
    simp only [lcpDrops, answer, pppFits, pppHeader, session, kept.flags, Bool.and_eq_true,
      Bool.not_eq_true', decide_eq_false_iff_not, Classical.not_imp]
    rfl
  have told : ((lcpWalk st s t memory l).told s).sent = [] ∨
      ((lcpWalk st s t memory l).told s).sent = [.clusterSession s] := by
    rw [Negotiation.told]
    have unsent := kept.sent.trans silent
    split
    · exact .inr (by rw [State.emit, unsent, List.nil_append])
    · exact .inl unsent
  rw [lcpConfigReq]
  by_cases dropped : lcpDrops st s t memory l = true
  · rw [if_pos dropped]
    refine iff_of_false (fun answered => ?_) fun sound => ?_
    · have last := answered.sent
      rcases told with none | cluster
      · rw [none] at last
        cases last
      · rw [cluster] at last
        cases last
    · exact drops.mp dropped (sized.room some sound)
  · rw [if_neg dropped]
    have room := not_not.mp (mt drops.mpr dropped)
    refine sized.answers_iff tiled.1 length ?_ room
    rw [← answer]
    refine lcpReply_last ?_
    rw [session, kept.ppp]
    exact replies

namespace Dialect

variable {header : Nat} {before : Progress} {offsets : List Nat}

theorem inquiry_sized (tiled : Tiled memory l) : (dialect.inquiry st s t memory l).Sized where
  header := pppHeader_le
  carried o option acts := by
    refine ⟨optionAt_short o, fun none => ?_⟩
    simp only [inquiry, networkInquiry, networkVerdict] at none
    split at none
    · split at none <;> simp at none
    · cases none
  nonempty o option := optionAt_ne_nil tiled option

theorem foldl_advance :
    offsets.foldl (dialect.advance st s (pppHeader st s t dialect.ncp.proto) memory) before =
      (dialect.inquiry st s t memory l).carry before
        (offsets.filter (networkActs (dialect.known s st) memory)) := by
  induction offsets generalizing before with
  | nil => rfl
  | cons o rest ih =>
      rw [List.foldl_cons, ih, List.filter_cons]
      by_cases acts : networkActs (dialect.known s st) memory o = true
      · rw [if_pos acts, advance, if_pos acts]
        rfl
      · rw [if_neg acts, advance, if_neg acts]

theorem proceeds_iff (kept : before.answer.lost = false) :
    dialect.Proceeds st s (pppHeader st s t dialect.ncp.proto) memory before offsets ↔
      (∀ o ∈ offsets, Measured (dialect.known s st) memory o) ∧
        (dialect.inquiry st s t memory l).Completes (dialect.strict memory) before
          (offsets.filter (networkActs (dialect.known s st) memory)) := by
  induction offsets generalizing before with
  | nil => simp [Proceeds, Inquiry.Completes]
  | cons o rest ih =>
      rw [Proceeds, Passes, List.forall_mem_cons, List.filter_cons]
      by_cases acts : networkActs (dialect.known s st) memory o = true
      · rw [if_pos acts, Inquiry.Completes, advance, if_pos acts]
        constructor
        · rintro ⟨⟨first, goes⟩, proceeds⟩
          obtain ⟨measured, completes⟩ := (ih goes.1).mp proceeds
          exact ⟨⟨first, measured⟩, goes, completes⟩
        · rintro ⟨⟨first, measured⟩, goes, completes⟩
          exact ⟨⟨first, goes⟩, (ih goes.1).mpr ⟨measured, completes⟩⟩
      · rw [if_neg acts, advance, if_neg acts, ih kept, and_assoc, and_assoc]
        have goes : Goes (dialect.strict memory o) before.answer before.answer :=
          ⟨kept, fun _ => .inl rfl⟩
        rw [and_iff_right goes]

/-- A request of a network protocol is sound: the lengths of the options that are known are right,
there is room for the suggestions before a rejection, the address that is insisted on is not the
first one rejected, and there is an address when nothing is refused. -/
structure Sound (dialect : Dialect) (st : State) (s t : Nat) (memory : Memory) (l : Nat) :
    Prop where
  answers : (dialect.inquiry st s t memory l).Sound l
  measured : ∀ o ∈ tiles memory l, seen l o = true → Measured (dialect.known s st) memory o
  uninterrupted : (dialect.inquiry st s t memory l).Uninterrupted (dialect.strict memory)
  addressed : (∀ o ∈ tiles memory l, ¬ (dialect.inquiry st s t memory l).Refuses o ∧
      ¬ (dialect.inquiry st s t memory l).Improves o) →
    ∃ o ∈ tiles memory l, seen l o = true ∧ dialect.isAddress memory o = true

/-- An option that is insisted on is known. -/
def Knows (dialect : Dialect) : Prop :=
  ∀ s st memory o, dialect.strict memory o = true → (dialect.known s st (memory o).toNat).isSome

theorem acted_eq :
    (dialect.inquiry st s t memory l).options.filter (dialect.inquiry st s t memory l).acts =
      ((tiles memory l).filter (seen l)).filter (networkActs (dialect.known s st) memory) := by
  rw [List.filter_filter]
  exact List.filter_congr fun o _ => Bool.and_comm ..

theorem completes_iff (knows : dialect.Knows) (tiled : Tiled memory l) :
    dialect.Proceeds st s (pppHeader st s t dialect.ncp.proto) memory
        (progress st s dialect.ncp.fsm .none) ((tiles memory l).filter (seen l)) ↔
      (∀ o ∈ tiles memory l, seen l o = true → Measured (dialect.known s st) memory o) ∧
        (dialect.inquiry st s t memory l).answer.lost = false ∧
        (dialect.inquiry st s t memory l).Uninterrupted (dialect.strict memory) := by
  have known : ∀ o ∈ (dialect.inquiry st s t memory l).options,
      dialect.strict memory o = true →
        ((dialect.inquiry st s t memory l).judge o).verdict ≠ .unacceptable := by
    intro o _ strict unacceptable
    obtain ⟨value, known⟩ := Option.isSome_iff_exists.mp (knows s st memory o strict)
    simp only [inquiry, networkInquiry, networkVerdict, known] at unacceptable
    split at unacceptable <;> cases unacceptable
  have completes := (@inquiry_sized st s t l memory dialect tiled).completes_iff known
  rw [acted_eq] at completes
  rw [proceeds_iff (t := t) (l := l) rfl, ← completes]
  simp only [List.mem_filter, and_imp]
  rfl

/-- What the walk over a well-formed request comes to: the answer that is collected, and whether an
address was seen, or the end of the processing. -/
theorem walked_outcome (carries : dialect.Carries) (knows : dialect.Knows)
    (tiled : Tiled memory l) :
    let inquiry := dialect.inquiry st s t memory l
    let completes := (∀ o ∈ tiles memory l, seen l o = true →
        Measured (dialect.known s st) memory o) ∧
      inquiry.answer.lost = false ∧ inquiry.Uninterrupted (dialect.strict memory)
    let result := dialect.ncp.walked (dialect.option s memory) st s t memory l
    (completes ∧ ∃ last, result = .ok last ∧ Untouched st last.st ∧ last.answer = inquiry.answer ∧
        (last.gotip = true ↔
          ∃ o ∈ tiles memory l, seen l o = true ∧ dialect.isAddress memory o = true)) ∨
      ¬ completes ∧ ∃ ended, result = .error ended ∧ Ended s st ended := by
  intro inquiry completes result
  have whole : 4 + (l - 4) = l := Nat.add_sub_cancel' tiled.1
  have outcome := @walk_outcome st s l memory (pppHeader st s t dialect.ncp.proto) dialect
    ⟨st, .none, false⟩ carries (l - 4) 4 (l - 4) tiled.2 whole .refl rfl
  have proceeds := @completes_iff st s t l memory dialect knows tiled
  rcases outcome with ⟨goes, last, walked, untouched, progressed, gotip⟩ | ⟨stops, ended⟩
  · refine .inl ⟨proceeds.mp goes, last, walked, untouched, ?_, ?_⟩
    · have answer := congrArg Progress.answer progressed
      rw [foldl_advance (l := l), ← tiles, ← acted_eq] at answer
      exact answer
    · rw [gotip, Bool.false_or, List.any_eq_true]
      simp only [List.mem_filter, and_assoc]
      rfl
  · exact .inr ⟨mt proceeds.mpr stops, ended⟩

/-- A request whose header has been checked. -/
theorem configReq_answered_iff (carries : dialect.Carries) (knows : dialect.Knows)
    (silent : st.sent = []) (tiled : Tiled memory l) (length : ntohs memory 2 = l)
    (replies : networkReplies ((st.session s).ppp.state dialect.ncp.fsm) = true) :
    Answered (dialect.inquiry st s t memory l) s dialect.ncp.proto memory l
        (dialect.ncp.configReq (dialect.option s memory) st s t memory l).sent ↔
      dialect.Sound st s t memory l := by
  have sized := @inquiry_sized st s t l memory dialect tiled
  have some : 0 < l := Nat.lt_of_lt_of_le (by decide) tiled.1
  rcases @walked_outcome st s t l memory dialect carries knows tiled with
    ⟨completes, last, walked, untouched, answer, gotip⟩ | ⟨stops, ended, walked, ends⟩
  · have fits : pppFits last.st s t dialect.ncp.proto l =
        decide ((dialect.inquiry st s t memory l).header + l ≤ maxEther) := by
      simp only [pppFits, pppHeader, untouched.session]
      rfl
    have drops : dialect.ncp.drops (dialect.option s memory) st s t memory l = true ↔
        (dialect.inquiry st s t memory l).answer.acks = true ∧
          ¬ (last.gotip = true ∧ (dialect.inquiry st s t memory l).header + l ≤ maxEther) := by
      rw [Ncp.drops, walked]
      dsimp only
      rw [answer, fits, Bool.and_eq_true, Bool.not_eq_true', ← Bool.not_eq_true, Bool.and_eq_true,
        decide_eq_true_eq]
    rw [Ncp.configReq, walked]
    dsimp only
    by_cases dropped : dialect.ncp.drops (dialect.option s memory) st s t memory l = true
    · rw [if_pos dropped]
      refine iff_of_false (fun answered => ?_) fun sound => ?_
      · have last := answered.sent
        rw [untouched.sent, silent] at last
        exact nomatch last
      · obtain ⟨acks, unready⟩ := drops.mp dropped
        have good := (sized.acks_iff some sound.answers).mp acks
        exact unready ⟨gotip.mpr (sound.addressed good), sized.room some sound.answers acks⟩
    · rw [if_neg dropped]
      have ready (acks : (dialect.inquiry st s t memory l).answer.acks = true) :
          last.gotip = true ∧ (dialect.inquiry st s t memory l).header + l ≤ maxEther := by
        by_contra unready
        exact dropped (drops.mpr ⟨acks, unready⟩)
      have sent : (dialect.ncp.reply last.st s last.answer.acks memory
          (last.answer.packet memory l)).sent.getLast? = .some (.ppp s dialect.ncp.proto
            ((dialect.inquiry st s t memory l).answer.packet memory l)) := by
        rw [answer, reply_last]
        rw [untouched.session]
        exact replies
      rw [sized.answers_iff tiled.1 length sent fun acks => (ready acks).2]
      refine ⟨fun sound => ⟨sound, completes.1, completes.2.2, fun good => ?_⟩, Sound.answers⟩
      exact gotip.mp (ready ((sized.acks_iff some sound).mpr good)).1
  · have unsent : dialect.ncp.configReq (dialect.option s memory) st s t memory l = ended := by
      rw [Ncp.configReq, walked]
    rw [unsent]
    refine iff_of_false (fun answered => ends.unanswered silent answered.sent) fun sound => ?_
    exact stops ⟨sound.measured, sized.kept some sound.answers, sound.uninterrupted⟩

theorem sound_silent
    (same : dialect.known s { st with sent := [] } = dialect.known s st) :
    dialect.Sound { st with sent := [] } s t memory l ↔ dialect.Sound st s t memory l := by
  have unsent : dialect.inquiry { st with sent := [] } s t memory l =
      dialect.inquiry st s t memory l := by
    rw [inquiry, networkInquiry, same]
    rfl
  constructor
  · rintro ⟨answers, measured, uninterrupted, addressed⟩
    rw [unsent] at answers uninterrupted addressed
    rw [same] at measured
    exact ⟨answers, measured, uninterrupted, addressed⟩
  · rintro ⟨answers, measured, uninterrupted, addressed⟩
    rw [← unsent] at answers uninterrupted addressed
    rw [← same] at measured
    exact ⟨answers, measured, uninterrupted, addressed⟩

end Dialect

theorem ipcp_knows : ipcpDialect.Knows := by
  intro s st memory o strict
  rw [Dialect.strict, Dialect.isAddress, Bool.and_eq_true, decide_eq_true_eq] at strict
  have address : (memory o).toNat = 3 := strict.2
  rw [address]
  rfl

theorem ipv6cp_knows : ipv6cpDialect.Knows := fun _ _ _ _ strict => nomatch strict

end Requests

/-- The protocols whose requests are answered option by option. -/
inductive Protocol where
  | lcp
  | ipcp
  | ipv6cp
deriving DecidableEq, Repr

namespace Protocol

def proto : Protocol → Nat
  | .lcp => pppLcp
  | .ipcp => pppIpcp
  | .ipv6cp => pppIpv6cp

/-- The function that processes the packets of a protocol. -/
def process : Protocol → State → Nat → Nat → Memory → Nat → State
  | .lcp => processlcp
  | .ipcp => processipcp
  | .ipv6cp => processipv6cp

/-- A request of `l` bytes, with the verdicts on its options. -/
def inquiry : Protocol → State → Nat → Nat → Memory → Nat → Inquiry
  | .lcp => lcpInquiry
  | .ipcp => ipcpDialect.inquiry
  | .ipv6cp => ipv6cpDialect.inquiry

/-- The packets of a session are looked at. -/
def Considers (st : State) (s : Nat) : Protocol → Prop
  | .lcp => (st.session s).die = 0
  | .ipcp => Phase.network.code ≤ (st.session s).ppp.phase.code
  | .ipv6cp => Phase.network.code ≤ (st.session s).ppp.phase.code ∧ (st.session s).ip ≠ 0

/-- The automaton is in a state in which a request is replied to. -/
def replies (st : State) (s : Nat) : Protocol → Bool
  | .lcp => lcpReplies (st.session s).ppp.lcp
  | .ipcp => networkReplies (st.session s).ppp.ipcp
  | .ipv6cp => networkReplies (st.session s).ppp.ipv6cp

/-- A packet of `l` bytes is a well-formed ConfigReq that is replied to. -/
structure Asked (protocol : Protocol) (st : State) (s : Nat) (memory : Memory) (l : Nat) :
    Prop where
  request : memory 0 = configReq
  whole : ntohs memory 2 ≤ l
  tiled : Tiled memory (ntohs memory 2)
  considered : protocol.Considers st s
  replied : protocol.replies st s = true

/-- The request is answered when nothing was sent before. -/
def Answers (protocol : Protocol) (st : State) (s t : Nat) (memory : Memory) (l : Nat) : Prop :=
  Answered (protocol.inquiry st s t memory (ntohs memory 2)) s protocol.proto memory
    (ntohs memory 2) (protocol.process { st with sent := [] } s t memory l).sent

/-- The condition under which a request is answered as it should be. -/
def Sound (st : State) (s t : Nat) (memory : Memory) : Protocol → Prop
  | .lcp => (lcpInquiry st s t memory (ntohs memory 2)).Sound (ntohs memory 2)
  | .ipcp => ipcpDialect.Sound st s t memory (ntohs memory 2)
  | .ipv6cp => ipv6cpDialect.Sound st s t memory (ntohs memory 2)

end Protocol

theorem process_configReq {ncp : Ncp} {option : Nat → Request → Nat → Except State Request}
    (request : memory 0 = configReq) :
    ncp.process option st s t memory l = ncp.configReq option st s t memory l := by
  have other : configReq ≠ configAck := by decide
  rw [Ncp.process, request, if_neg other, if_pos rfl]

/-- A session whose LCP has sent a request. -/
def negotiating : State :=
  (State.start .zero (fun _ => .zero) 0 0 0).setSession 1 fun session =>
    { session with ppp := { session.ppp with lcp := .requestSent } }

/-- A request without options. -/
def emptyRequest : Memory := fun k => ([1, 7, 0, 4][k]?).getD 0

/-- A request with a single option of a type that is not known. -/
def unknownOption : Memory := fun k => ([1, 7, 0, 6, 66, 2][k]?).getD 0

end L2tpns.Answering
