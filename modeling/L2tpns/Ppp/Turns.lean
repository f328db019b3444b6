import L2tpns.Avp.Memory
import L2tpns.Ppp.Line
import Mathlib.Data.Nat.Bitwise

/-! # The automata of a line

The automaton of option negotiation, once for all protocols, as a relation on lines. A
packet that is heard adjusts the authentication that is asked for, is answered in one
turn, and may end the line (`Line.Answers`). Every packet that `processlcp`, `processipcp`,
`processipv6cp` and `processccp` handle does so (`processlcp_answers` and the like).
-/

namespace L2tpns.Server

open Avp (Memory ntohs readBytes readBytes_cons writeBytes)
open Line (Fades Asks IpcpRises LcpRises)

/-- What the peer says to the automata. An acknowledgement may name a type of
authentication that takes effect, 0 for none; a request may be dropped. -/
inductive Heard where
  | ack (fsm : Fsm) (packet : List UInt8) (named : Nat)
  | request (fsm : Fsm) (packet : List UInt8)
  | dropped (fsm : Fsm) (packet : List UInt8)
  | refusal
  | terminate (fsm : Fsm)
  | rejected
  | other
deriving DecidableEq

/-- The acknowledgement of a request: the same packet with another code. -/
def ackOf : List UInt8 → List UInt8
  | [] => []
  | _ :: rest => configAck :: rest

def FsmState.answered (acks : Bool) : FsmState := if acks then .ackSent else .requestSent

namespace Line

/-- The layers above an automaton that comes down. -/
def down (line : Line) (fsm : Fsm) : Line := if fsm = .lcp then line.restart else line

/-- A request is acknowledged, or refused in part. -/
def answer (line : Line) (fsm : Fsm) (packet : List UInt8) (acks : Bool) : Line :=
  if acks then line.say fsm (ackOf packet) else line

/-- A type of authentication that is configured. -/
def Configured (line : Line) (authtype : Nat) : Prop :=
  authtype ≠ 0 ∧ authtype &&& line.config.radiusAuthtypes = authtype

/-- An automaton comes up; a network automaton does so in the network phase. -/
inductive Rises : Fsm → Line → Line → Prop where
  | lcp {line up : Line} (rises : LcpRises line up) : Rises .lcp line up
  | ipcp {line up : Line} (runs : Phase.network.code ≤ line.ppp.phase.code)
      (rises : IpcpRises line up) : Rises .ipcp line up
  | ipv6cp {line : Line} (runs : Phase.network.code ≤ line.ppp.phase.code) :
      Rises .ipv6cp line (line.set .ipv6cp .opened)
  | ccp {line : Line} (runs : Phase.network.code ≤ line.ppp.phase.code) :
      Rises .ccp line (line.set .ccp .opened)

/-- What is heard may change the authentication that is asked for. -/
inductive Adjusts : Heard → Line → Line → Prop where
  | same {heard : Heard} {line : Line} : Adjusts heard line line
  | named {packet : List UInt8} {authtype : Nat} {line : Line} (given : authtype ≠ 0) :
      Adjusts (.ack .lcp packet authtype) line (line.grant authtype)
  | configured {heard : Heard} {line : Line} {authtype : Nat}
      (configured : line.Configured authtype) : Adjusts heard line (line.grant authtype)

/-- What an automaton does about what is heard. -/
inductive Turn : Heard → Line → Line → Prop where
  | acked {fsm : Fsm} {packet : List UInt8} {named : Nat} {line : Line}
      (state : line.ppp.state fsm = .requestSent) :
      Turn (.ack fsm packet named) line (line.set fsm .ackReceived)
  | crossed {fsm : Fsm} {packet : List UInt8} {named : Nat} {line asked : Line}
      (state : line.ppp.state fsm = .ackReceived) (asks : Asks fsm line asked) :
      Turn (.ack fsm packet named) line (asked.set fsm .requestSent)
  | reopened {fsm : Fsm} {packet : List UInt8} {named : Nat} {line asked : Line}
      (state : line.ppp.state fsm = .opened) (asks : Asks fsm (line.down fsm) asked) :
      Turn (.ack fsm packet named) line (asked.set fsm .requestSent)
  | agreed {fsm : Fsm} {packet : List UInt8} {named : Nat} {line up : Line}
      (state : line.ppp.state fsm = .ackSent) (rises : Rises fsm line up) :
      Turn (.ack fsm packet named) line up
  | unheeded {fsm : Fsm} {packet : List UInt8} {named : Nat} {line : Line} :
      Turn (.ack fsm packet named) line line
  | started {fsm : Fsm} {packet : List UInt8} {line asked : Line} (acks : Bool)
      (state : line.ppp.state fsm = .stopped) (asks : Asks fsm line asked) :
      Turn (.request fsm packet) line ((asked.set fsm (.answered acks)).answer fsm packet acks)
  | restarted {fsm : Fsm} {packet : List UInt8} {line asked : Line} (acks : Bool)
      (state : line.ppp.state fsm = .opened) (asks : Asks fsm (line.down fsm) asked) :
      Turn (.request fsm packet) line ((asked.set fsm (.answered acks)).answer fsm packet acks)
  | answered {fsm : Fsm} {packet : List UInt8} {line : Line} (acks : Bool)
      (state : line.ppp.state fsm = .requestSent ∨ line.ppp.state fsm = .ackSent) :
      Turn (.request fsm packet) line ((line.set fsm (.answered acks)).answer fsm packet acks)
  | received {fsm : Fsm} {packet : List UInt8} {line up : Line}
      (state : line.ppp.state fsm = .ackReceived) (rises : Rises fsm line up) :
      Turn (.request fsm packet) line (up.answer fsm packet true)
  | withheld {fsm : Fsm} {packet : List UInt8} {line : Line}
      (state : line.ppp.state fsm = .ackReceived) : Turn (.request fsm packet) line line
  | passive {fsm : Fsm} {packet : List UInt8} {line : Line} (acks : Bool)
      (idle : line.ppp.state fsm ≠ .ackSent) (waiting : line.ppp.state fsm ≠ .ackReceived) :
      Turn (.request fsm packet) line (line.answer fsm packet acks)
  | dropped {fsm : Fsm} {packet : List UInt8} {line : Line} : Turn (.dropped fsm packet) line line
  | refused {line asked : Line} (asks : Asks .lcp line asked) : Turn .refusal line asked
  | refusedOpened {line asked : Line} (state : line.ppp.lcp = .opened)
      (asks : Asks .lcp line.restart asked) : Turn .refusal line asked
  | unrefused {line : Line} : Turn .refusal line line
  | terminated {fsm : Fsm} {line : Line} (state : line.ppp.state fsm = .opened) :
      Turn (.terminate fsm) line ((line.down fsm).set fsm .closing)
  | stopped {line : Line} : Turn (.terminate .ccp) line (line.set .ccp .stopped)
  | unterminated {fsm : Fsm} {line : Line} : Turn (.terminate fsm) line line
  | rejected {line : Line} : Turn .rejected line (line.set .ipv6cp .closed)
  | other {line : Line} : Turn .other line line

/-- The line after something is heard. -/
def Answers (heard : Heard) (line line' : Line) : Prop :=
  ∃ adjusted answered, Adjusts heard line adjusted ∧ Turn heard adjusted answered ∧
    Fades answered line'

variable {heard : Heard} {line line' line'' : Line}

theorem Turn.answers (turn : Turn heard line line') : Answers heard line line' :=
  ⟨line, line', .same, turn, .same⟩

theorem Answers.fades (answers : Answers heard line line') (fades : Fades line' line'') :
    Answers heard line line'' := by
  obtain ⟨adjusted, answered, adjusts, turn, faded⟩ := answers
  exact ⟨adjusted, answered, adjusts, turn, faded.trans fades⟩

theorem Answers.adjusted {authtype : Nat} (configured : line.Configured authtype)
    (turn : Answers heard (line.grant authtype) line') : Answers heard line line' := by
  obtain ⟨adjusted, answered, adjusts, turn, faded⟩ := turn
  refine ⟨adjusted, answered, ?_, turn, faded⟩
  cases adjusts with
  | same => exact .configured configured
  | named given => exact .named given
  | configured later => exact .configured later

/-- An ordinary adjustment: none, or to a configured type. -/
def Tunes (line line' : Line) : Prop :=
  line' = line ∨ ∃ authtype, line.Configured authtype ∧ line' = line.grant authtype

theorem Tunes.same : Tunes line line := .inl rfl

theorem Tunes.trans (first : Tunes line line') (second : Tunes line' line'') :
    Tunes line line'' := by
  rcases first with rfl | ⟨authtype, configured, rfl⟩
  · exact second
  · rcases second with rfl | ⟨later, again, rfl⟩
    · exact .inr ⟨authtype, configured, rfl⟩
    · exact .inr ⟨later, again, rfl⟩

theorem Tunes.answers (tunes : Tunes line line') (answers : Answers heard line' line'') :
    Answers heard line line'' := by
  rcases tunes with rfl | ⟨authtype, configured, rfl⟩
  · exact answers
  · exact answers.adjusted configured

end Line

open Line (Answers Tunes Turn Rises)

variable {st : State} {s : Nat}

variable {code : UInt8} {answer : Answer} {refused : Refused} (t : Nat) (fsm : Fsm)
  (memory : Memory) (l header : Nat)

theorem readBytes_code (code : UInt8) (l : Nat) :
    readBytes (writeBytes memory 0 [code]) 0 (l + 1) = code :: readBytes memory 1 l := by
  rw [readBytes_cons]
  congr 1
  unfold readBytes
  apply List.map_congr_left
  intro k _
  unfold writeBytes
  rw [if_pos (Nat.zero_le _), Nat.sub_zero, List.getElem?_eq_none (by simp)]
  rfl

theorem readBytes_ack :
    readBytes (writeBytes memory 0 [configAck]) 0 l = ackOf (readBytes memory 0 l) := by
  cases l with
  | zero => rfl
  | succ l =>
      rw [readBytes_code, readBytes_cons]
      rfl

theorem readBytes_quiet (request : code ≠ configReq) (ack : code ≠ configAck) :
    negotiates (readBytes (writeBytes memory 0 [code]) 0 l) = false := by
  cases l with
  | zero => rfl
  | succ l =>
      rw [readBytes_code]
      simp [negotiates, request, ack]

theorem controlPacket_quiet (ident : Nat) (options : List UInt8)
    (request : code ≠ configReq) (ack : code ≠ configAck) :
    negotiates (controlPacket code ident options) = false := by
  simp [negotiates, controlPacket, request, ack]

theorem sendBack_line (request : code ≠ configReq) (ack : code ≠ configAck) :
    (sendBack st s t fsm.proto code memory l).line s = st.line s := by
  unfold sendBack
  split
  · rw [emit_say, Line.say_quiet (readBytes_quiet memory l request ack)]
  · rfl

theorem sendTerminateAck_line : (sendTerminateAck st s fsm.proto memory).line s = st.line s := by
  unfold sendTerminateAck
  rw [emit_say, Line.say_quiet (controlPacket_quiet _ _ (by decide) (by decide))]

theorem pppCodeRej_line : (pppCodeRej st s fsm.proto memory l).line s = st.line s := by
  unfold pppCodeRej
  dsimp only
  rw [emit_say, Line.say_quiet rfl]
  exact setLocal_line rfl

/-- A reply that is collected is a refusal. -/
def Answer.Refuses (answer : Answer) : Prop :=
  ∀ reply ∈ answer.response, reply.code = configNak ∨ reply.code = configRej

theorem Answer.none_refuses : Answer.none.Refuses := nofun

theorem Reply.queue_refuses {reply : Reply} (refusal : reply.code = configNak ∨
    reply.code = configRej) (header : Nat) (option : List UInt8) :
    (reply.queue header option).Refuses := by
  unfold Reply.queue
  split
  · intro queued same
    cases same
    exact refusal
  · intro queued same
    cases same
    exact refusal

theorem pppConfRej_refuses (refuses : answer.Refuses) (header : Nat)
    (option : List UInt8) : (pppConfRej header answer option).Refuses := by
  unfold pppConfRej
  split
  · rename_i reply same
    split
    · split
      · exact refuses
      · exact Reply.queue_refuses (refuses reply same) header option
    · exact Reply.queue_refuses (.inr rfl) header option
  · exact Reply.queue_refuses (.inr rfl) header option

theorem pppConfNak_refuses {answer : Answer} (refuses : answer.Refuses) (fsm : Fsm) (header : Nat)
    (option value : List UInt8) : (pppConfNak st s fsm header answer option value).2.Refuses := by
  unfold pppConfNak
  dsimp only
  split
  · rename_i reply same
    split
    · dsimp only
      split
      · exact refuses
      · exact Reply.queue_refuses (refuses reply same) header _
    · split
      · apply pppConfRej_refuses
        intro queued queues
        cases queues
        exact refuses reply same
      · exact refuses
  · split
    · exact pppConfRej_refuses refuses header option
    · exact Reply.queue_refuses (.inl rfl) header _

theorem pppConfNak_line (fsm : Fsm) (header : Nat) (answer : Answer) (option value : List UInt8) :
    (pppConfNak st s fsm header answer option value).1.line s = st.line s := by
  unfold pppConfNak
  dsimp only
  split
  · split
    · rfl
    · split
      · rfl
      · rfl
  · split
    · rfl
    · exact setTimer_line (fun own => { own.timer fsm with
        nakSent := (own.timer fsm).nakSent + 1 }) fsm

/-- What is sent for a request is its acknowledgement, or no part of the negotiation. -/
theorem Answer.packet_say (refuses : answer.Refuses) (fsm : Fsm)
    (memory : Memory) (l : Nat) (line : Line) :
    line.say fsm (answer.packet memory l) =
      line.answer fsm (readBytes memory 0 l) answer.acks := by
  unfold Answer.packet Line.answer Answer.acks
  cases response : answer.response with
  | none => rw [readBytes_ack]; rfl
  | some reply =>
      have refusal := refuses reply response
      apply Line.say_quiet
      dsimp only
      split
      · rfl
      · rcases refusal with nak | rej
        · rw [nak]
          exact controlPacket_quiet _ _ (by decide) (by decide)
        · rw [rej]
          exact controlPacket_quiet _ _ (by decide) (by decide)

/-- The type of authentication that takes effect when it is acknowledged. -/
def namedAuthtype (st : State) (s : Nat) (memory : Memory) (l : Nat) : Nat :=
  if (st.session s).ip = 0 then ackedAuthtype memory (optionsOf memory l) else 0

theorem lcpConfigAck_answers :
    Answers (.ack .lcp (readBytes memory 0 l) (namedAuthtype st s memory l)) (st.line s)
      ((lcpConfigAck st s memory l).line s) := by
  have agreed : ∃ agreed : State, Line.Adjusts
      (.ack .lcp (readBytes memory 0 l) (namedAuthtype st s memory l)) (st.line s)
      (agreed.line s) ∧ agreed.session = st.session ∧
      (if (st.session s).ip = 0 ∧ ackedAuthtype memory (optionsOf memory l) ≠ 0 then
        setAuthtype st s (ackedAuthtype memory (optionsOf memory l)) else st) = agreed := by
    by_cases named : (st.session s).ip = 0 ∧ ackedAuthtype memory (optionsOf memory l) ≠ 0
    · refine ⟨setAuthtype st s (ackedAuthtype memory (optionsOf memory l)), ?_, rfl, if_pos named⟩
      rw [setAuthtype_line, namedAuthtype, if_pos named.1]
      exact .named named.2
    · exact ⟨st, .same, rfl, if_neg named⟩
  obtain ⟨agreed, adjusts, same, equal⟩ := agreed
  unfold lcpConfigAck
  dsimp only
  rw [equal, ← same]
  have state : (agreed.line s).ppp.state .lcp = (agreed.session s).ppp.lcp := rfl
  split
  · rename_i sent
    refine ⟨_, _, adjusts, .acked (state.trans sent), ?_⟩
    rw [changeState_line, initialiseRestartCount_line]
    exact .same
  · rename_i received
    refine ⟨_, _, adjusts, .crossed (state.trans received) sendlcp_asks, ?_⟩
    rw [changeState_line]
    exact .same
  · rename_i opened
    have asks : Line.Asks .lcp ((agreed.line s).down .lcp)
        ((sendlcp (lcpRestart agreed s) s).line s) := by
      change Line.Asks .lcp (agreed.line s).restart _
      rw [← lcpRestart_line]
      exact sendlcp_asks
    refine ⟨_, _, adjusts, .reopened (state.trans opened) asks, ?_⟩
    rw [changeState_line]
    exact .same
  · rename_i sent
    obtain ⟨up, rises, fades⟩ := @lcpOpen_rises agreed s
    exact ⟨_, up, adjusts, .agreed (state.trans sent) (.lcp rises), fades⟩
  · exact ⟨_, _, adjusts, .unheeded, .same⟩

theorem land_configured {types authtype : Nat} (bit : authtype = authPap ∨ authtype = authChap)
    (configured : types &&& authtype ≠ 0) : authtype &&& types = authtype := by
  have power : ∃ k, authtype = 2 ^ k := by
    rcases bit with rfl | rfl
    · exact ⟨0, rfl⟩
    · exact ⟨1, rfl⟩
  obtain ⟨k, rfl⟩ := power
  rw [Nat.and_comm, Nat.and_two_pow]
  rw [Nat.and_two_pow] at configured
  cases tested : types.testBit k with
  | true => simp
  | false => simp [tested] at configured

theorem setAuthtype_tunes {authtype : Nat} (bit : authtype = authPap ∨ authtype = authChap)
    (configured : st.config.radiusAuthtypes &&& authtype ≠ 0) :
    Tunes (st.line s) ((setAuthtype st s authtype).line s) := by
  rw [setAuthtype_line]
  refine .inr ⟨authtype, ⟨?_, land_configured bit configured⟩, rfl⟩
  rintro rfl
  exact configured (Nat.and_zero _)

theorem lcpAuthOption_tunes (memory : Memory) (o : Nat)
    {negotiation : Negotiation} (refuses : negotiation.answer.Refuses) :
    Tunes (negotiation.st.line s) ((lcpAuthOption negotiation s header memory o).st.line s) ∧
      (lcpAuthOption negotiation s header memory o).answer.Refuses := by
  unfold lcpAuthOption
  dsimp only
  split
  · rename_i pap
    exact ⟨setAuthtype_tunes (.inl rfl) pap.2, refuses⟩
  split
  · rename_i chap
    exact ⟨setAuthtype_tunes (.inr rfl) chap.2.1, refuses⟩
  split
  · exact ⟨.same, refuses⟩
  · have first := @pppConfNak_line negotiation.st s .lcp header negotiation.answer
      (readBytes memory o (memory (o + 1)).toNat)
      ((addLcpAuth negotiation.st.config.radiusAuthprefer).drop 2)
    have refused := @pppConfNak_refuses negotiation.st s _ refuses .lcp header
      (readBytes memory o (memory (o + 1)).toNat)
      ((addLcpAuth negotiation.st.config.radiusAuthprefer).drop 2)
    split
    · exact ⟨.inl ((pppConfNak_line ..).trans first), pppConfNak_refuses refused _ _ _ _⟩
    · exact ⟨.inl first, refused⟩

theorem lcpReqOption_tunes (header : Nat) (memory : Memory) {negotiation : Negotiation}
    (refuses : negotiation.answer.Refuses) (o : Nat) :
    Tunes (negotiation.st.line s) ((lcpReqOption s header memory negotiation o).st.line s) ∧
      (lcpReqOption s header memory negotiation o).answer.Refuses := by
  unfold lcpReqOption
  dsimp only
  split
  · split
    · exact ⟨.inl (setSession_line rfl), refuses⟩
    · exact ⟨.inl (pppConfNak_line ..), pppConfNak_refuses refuses _ _ _ _⟩
  · split
    · exact ⟨.same, refuses⟩
    · exact ⟨.inl (pppConfNak_line ..), pppConfNak_refuses refuses _ _ _ _⟩
  · exact lcpAuthOption_tunes header memory o refuses
  · exact ⟨.same, refuses⟩
  · exact ⟨.same, refuses⟩
  · exact ⟨.same, refuses⟩
  · exact ⟨.same, refuses⟩
  · exact ⟨.inl (setSession_line rfl), refuses⟩
  · exact ⟨.inl (setSession_line rfl), refuses⟩
  · exact ⟨.inl (setSession_line rfl), refuses⟩
  · exact ⟨.same, pppConfRej_refuses refuses _ _⟩

theorem lcpOptions_tunes (memory : Memory) (offsets : List Nat)
    {negotiation : Negotiation} (refuses : negotiation.answer.Refuses) :
    Tunes (negotiation.st.line s)
        ((offsets.foldl (lcpReqOption s header memory) negotiation).st.line s) ∧
      (offsets.foldl (lcpReqOption s header memory) negotiation).answer.Refuses := by
  induction offsets generalizing negotiation with
  | nil => exact ⟨.same, refuses⟩
  | cons o rest ih =>
      have option := @lcpReqOption_tunes s header memory negotiation refuses o
      have later := ih option.2
      exact ⟨option.1.trans later.1, later.2⟩

theorem Negotiation.told_line (negotiation : Negotiation) :
    (negotiation.told s).line s = negotiation.st.line s := by
  unfold Negotiation.told
  split
  · exact emit_line fun _ => rfl
  · rfl

/-- A request is answered in one turn. -/
theorem lcpReply_answers (refuses : answer.Refuses) (memory : Memory) (l : Nat) :
    Answers (.request .lcp (readBytes memory 0 l)) (st.line s)
      ((lcpReply st s answer memory l).line s) := by
  have state : (st.line s).ppp.state .lcp = (st.session s).ppp.lcp := rfl
  have said (next : State) : (next.emit (.ppp s pppLcp (answer.packet memory l))).line s =
      (next.line s).answer .lcp (readBytes memory 0 l) answer.acks :=
    (emit_say .lcp _).trans (answer.packet_say refuses .lcp memory l _)
  unfold lcpReply lcpAnswerReq
  dsimp only
  cases lcp : (st.session s).ppp.lcp with
  | closed =>
      simp only [not_true_eq_false, ↓reduceIte]
      have told : (sendTerminateAck st s pppLcp memory).line s = st.line s :=
        sendTerminateAck_line .lcp memory
      rw [told]
      exact (Turn.passive false (by rw [state, lcp]; nofun) (by rw [state, lcp]; nofun)).answers
  | stopped =>
      simp only [not_true_eq_false, reduceCtorEq, ↓reduceIte]
      rw [said, changeState_line]
      apply Turn.answers
      apply Turn.started answer.acks (state.trans lcp)
      rw [← initialiseRestartCount_line .lcp]
      exact sendlcp_asks
  | requestSent =>
      simp only [not_true_eq_false, reduceCtorEq, ↓reduceIte]
      rw [said]
      have moved : (if answer.acks = true then changeState st s .lcp .ackSent else st).line s =
          (st.line s).set .lcp (.answered answer.acks) := by
        split
        · rename_i acks
          rw [changeState_line, acks]
          rfl
        · rename_i nacks
          rw [Bool.not_eq_true] at nacks
          rw [nacks, FsmState.answered, if_neg nofun, ← lcp]
          rfl
      rw [moved]
      exact (Turn.answered answer.acks (.inl (state.trans lcp))).answers
  | ackReceived =>
      simp only [not_true_eq_false, reduceCtorEq, ↓reduceIte]
      rw [said]
      cases acks : answer.acks with
      | true =>
          rw [if_pos rfl]
          obtain ⟨up, rises, fades⟩ := @lcpOpen_rises st s
          apply Answers.fades (Turn.received (state.trans lcp) (.lcp rises)).answers
          unfold Line.answer
          rw [if_pos rfl, if_pos rfl]
          exact fades.say ..
      | false =>
          rw [if_neg nofun]
          exact (Turn.withheld (state.trans lcp)).answers
  | opened =>
      simp only [not_true_eq_false, reduceCtorEq, ↓reduceIte]
      rw [said, changeState_line]
      apply Turn.answers
      apply Turn.restarted answer.acks (state.trans lcp)
      change Line.Asks .lcp (st.line s).restart _
      rw [← lcpRestart_line]
      exact sendlcp_asks
  | ackSent =>
      simp only [not_true_eq_false, reduceCtorEq, ↓reduceIte]
      rw [said, changeState_line]
      exact (Turn.answered answer.acks (.inr (state.trans lcp))).answers
  | closing =>
      simp only [not_true_eq_false, reduceCtorEq, ↓reduceIte]
      rw [said]
      apply Answers.fades (Turn.passive answer.acks (by rw [state, lcp]; nofun)
        (by rw [state, lcp]; nofun)).answers
      unfold Line.answer
      split
      · exact (sessionshutdown_fades ..).say ..
      · exact sessionshutdown_fades ..
  | initial | starting | stopping =>
      exact (Turn.passive false (by rw [state, lcp]; nofun) (by rw [state, lcp]; nofun)).answers

theorem lcpConfigReq_answers :
    Answers (if lcpDrops st s t memory l then .dropped .lcp (readBytes memory 0 l)
      else .request .lcp (readBytes memory 0 l)) (st.line s)
      ((lcpConfigReq st s t memory l).line s) := by
  have options : Tunes (st.line s) (((lcpWalk st s t memory l).told s).line s) ∧
      (lcpWalk st s t memory l).answer.Refuses := by
    rw [Negotiation.told_line]
    exact lcpOptions_tunes _ memory _ Answer.none_refuses
  unfold lcpConfigReq
  dsimp only
  by_cases drops : lcpDrops st s t memory l = true
  · rw [if_pos drops, if_pos drops]
    exact options.1.answers Turn.dropped.answers
  · rw [if_neg drops, if_neg drops]
    exact options.1.answers (lcpReply_answers options.2 memory l)

/-- How far a refusal is read: the line is as it was, and the type of authentication is
none or a configured one. -/
def Refused.Sound (line : Line) (s : Nat) (refused : Refused) : Prop :=
  refused.st.line s = line ∧
    ∀ authtype ∈ refused.authtype, authtype = 0 ∨ line.Configured authtype

/-- What reading a refusal comes to: it ends the session, or it is read on. -/
def Refused.Reads (line : Line) (s : Nat) : Except State Refused → Prop
  | .error ended => Fades line (ended.line s)
  | .ok refused => refused.Sound line s

theorem Refused.Sound.asked {line : Line} (sound : refused.Sound line s)
    {authtype : Nat} (bit : authtype = authPap ∨ authtype = authChap) :
    Refused.Reads line s
      (.ok { refused with authtype := some (refused.st.config.radiusAuthtypes &&& authtype) }) := by
  refine ⟨sound.1, fun named same => ?_⟩
  cases same
  by_cases none : refused.st.config.radiusAuthtypes &&& authtype = 0
  · exact .inl none
  · right
    have config : refused.st.config = line.config := congrArg Line.config sound.1
    have whole := land_configured bit none
    rw [Nat.and_comm] at whole
    rw [whole]
    refine ⟨?_, ?_⟩
    · rcases bit with rfl | rfl <;> decide
    · rw [← config, Nat.and_comm]
      exact whole

theorem Refused.Sound.option {line : Line} (sound : refused.Sound line s)
    (memory : Memory) (o : Nat) : Refused.Reads line s (lcpNakOption s memory refused o) := by
  have kept (change : SessLocal → SessLocal)
      (keeps : ∀ own, (change own).lcpAuthtype = own.lcpAuthtype) :
      Refused.Reads line s (.ok { refused with st := refused.st.setLocal s change }) :=
    ⟨(setLocal_line (keeps _)).trans sound.1, sound.2⟩
  have magic (value : Nat) : (refused.st.setSession s fun session =>
      { session with magic := value }).line s = line :=
    (setSession_line rfl).trans sound.1
  unfold lcpNakOption
  dsimp only
  split
  · split
    · split
      · exact sound
      · exact kept _ fun _ => rfl
    · exact kept _ fun _ => rfl
  · split
    · exact sound
    split
    · split
      · exact sound
      split
      · exact sound.asked (.inl rfl)
      split
      · exact sound.asked (.inr rfl)
      · exact sound
    · refine ⟨sound.1, fun named same => ?_⟩
      cases same
      exact .inl rfl
  · split
    · exact ⟨magic 0, sound.2⟩
    · exact ⟨(emit_line fun _ => rfl).trans (magic _), sound.2⟩
  · exact kept _ fun _ => rfl
  · exact kept _ fun _ => rfl
  · split
    · exact sound
    · exact kept _ fun _ => rfl
  · rw [← sound.1]
    exact sessionshutdown_fades ..

theorem Refused.Sound.options {line : Line} (sound : refused.Sound line s)
    (memory : Memory) (offsets : List Nat) :
    Refused.Reads line s (offsets.foldlM (lcpNakOption s memory) refused) := by
  induction offsets generalizing refused with
  | nil => exact sound
  | cons o rest ih =>
      have option := sound.option memory o
      rw [List.foldlM_cons]
      cases read : lcpNakOption s memory refused o with
      | error ended =>
          rw [read] at option
          exact option
      | ok later =>
          rw [read] at option
          exact ih option

theorem lcpAnswerNak_answers :
    Answers .refusal (st.line s) ((lcpAnswerNak st s memory).line s) := by
  unfold lcpAnswerNak
  have told : (sendTerminateAck st s pppLcp memory).line s = st.line s :=
    sendTerminateAck_line .lcp memory
  have asked : Line.Asks .lcp (st.line s)
      ((sendlcp (initialiseRestartCount st s .lcp) s).line s) := by
    rw [← initialiseRestartCount_line .lcp]
    exact sendlcp_asks
  split
  · rw [told]
    exact Turn.unrefused.answers
  · rw [told]
    exact Turn.unrefused.answers
  · exact (Turn.refused asked).answers
  · exact (Turn.refused asked).answers
  · exact (Turn.refused sendlcp_asks).answers
  · rename_i opened
    apply Turn.answers
    apply Turn.refusedOpened opened
    rw [← lcpRestart_line]
    exact sendlcp_asks
  · exact Turn.unrefused.answers

theorem lcpRefusal_reads (memory : Memory) (l : Nat) :
    match lcpRefusal st s memory l with
    | .error ended => Fades (st.line s) (ended.line s)
    | .ok walked => Tunes (st.line s) (walked.line s) := by
  have reads : Refused.Reads (st.line s) s
      ((optionsOf memory l).foldlM (lcpNakOption s memory) ⟨st, none⟩) :=
    Refused.Sound.options ⟨rfl, by rintro _ ⟨⟩⟩ memory _
  unfold lcpRefusal
  cases read : (optionsOf memory l).foldlM (lcpNakOption s memory) ⟨st, none⟩ with
  | error ended =>
      rw [read] at reads
      exact reads
  | ok walked =>
      rw [read] at reads
      obtain ⟨walked, authtype⟩ := walked
      cases authtype with
      | none => exact .inl reads.1
      | some authtype =>
          cases authtype with
          | zero =>
              rw [← reads.1]
              exact sessionshutdown_fades ..
          | succ n =>
              rcases reads.2 (n + 1) rfl with zero | configured
              · cases zero
              · refine .inr ⟨n + 1, configured, ?_⟩
                rw [setAuthtype_line, reads.1]

theorem lcpConfigNak_answers :
    Answers (if (lcpRefusal st s memory l).isOk then .refusal else .other) (st.line s)
      ((lcpConfigNak st s memory l).line s) := by
  have reads := @lcpRefusal_reads st s memory l
  unfold lcpConfigNak
  cases read : lcpRefusal st s memory l with
  | error ended =>
      rw [read] at reads
      exact Turn.other.answers.fades reads
  | ok walked =>
      rw [read] at reads
      exact Tunes.answers reads (lcpAnswerNak_answers memory)

theorem lcpTerminateReq_answers :
    Answers (.terminate .lcp) (st.line s) ((lcpTerminateReq st s t memory l).line s) := by
  have back (st : State) : (sendBack st s t pppLcp terminateAck memory l).line s = st.line s :=
    sendBack_line t .lcp memory l (by decide) (by decide)
  unfold lcpTerminateReq
  split
  · exact Turn.unterminated.answers
  · exact Turn.unterminated.answers
  · rename_i opened
    dsimp only
    rw [back, changeState_line, zeroRestartCount_line, lcpRestart_line]
    have up : (st.line s).ppp.state .lcp = .opened := opened
    exact (Turn.terminated up).answers
  · rw [back]
    exact Turn.unterminated.answers

theorem lcpEchoReq_line : (lcpEchoReq st s t memory l).line s = st.line s := by
  have back (ours : Memory) : (sendBack st s t pppLcp echoReply ours l).line s = st.line s :=
    sendBack_line t .lcp ours l (by decide) (by decide)
  unfold lcpEchoReq
  dsimp only
  split
  · rfl
  · split
    · unfold sendIpv6Ra
      rw [emit_line (Effect.quiet_proto (fun fsm => by cases fsm <;> decide) _ _)]
      exact back _
    · exact back _

/-- What an LCP packet says. -/
def lcpHeard (st : State) (s t : Nat) (memory : Memory) (l : Nat) : Heard :=
  let hl := ntohs memory 2
  let code := memory 0
  let packet := readBytes memory 0 hl
  if l < 4 ∨ hl > l then .other
  else if code = configReq then
    if (st.session s).die ≠ 0 ∨ lcpDrops st s t memory hl then .dropped .lcp packet
    else .request .lcp packet
  else if (st.session s).die ≠ 0 then .other
  else if code = configAck then .ack .lcp packet (namedAuthtype st s memory hl)
  else if code = configNak ∨ code = configRej then
    if (lcpRefusal st s memory hl).isOk then .refusal else .other
  else if code = terminateReq then .terminate .lcp
  else if code = protocolRej ∧ rejectedProtocol memory hl = pppIpv6cp then .rejected
  else .other

theorem processlcp_answers :
    Answers (lcpHeard st s t memory l) (st.line s) ((processlcp st s t memory l).line s) := by
  unfold lcpHeard processlcp
  dsimp only
  by_cases short : l < 4
  · rw [if_pos short, if_pos (.inl short)]
    exact Turn.other.answers
  rw [if_neg short]
  by_cases long : ntohs memory 2 > l
  · rw [if_pos long, if_pos (.inr long)]
    exact Turn.other.answers
  rw [if_neg long, if_neg (not_or.mpr ⟨short, long⟩)]
  by_cases dying : (st.session s).die = 0
  swap
  · simp only [ne_eq, dying, not_false_eq_true, ↓reduceIte, true_or]
    split
    · exact Turn.dropped.answers
    · exact Turn.other.answers
  simp only [dying, ne_eq, not_true_eq_false, ↓reduceIte, false_or]
  by_cases ack : memory 0 = configAck
  · rw [if_pos ack, if_neg (by rw [ack]; decide), if_pos ack]
    exact lcpConfigAck_answers ..
  simp only [ack, ↓reduceIte]
  by_cases request : memory 0 = configReq
  · rw [if_pos request, if_pos request]
    exact lcpConfigReq_answers ..
  rw [if_neg request, if_neg request]
  by_cases refusal : memory 0 = configNak ∨ memory 0 = configRej
  · rw [if_pos refusal, if_pos refusal]
    exact lcpConfigNak_answers ..
  rw [if_neg refusal, if_neg refusal]
  by_cases terminate : memory 0 = terminateReq
  · rw [if_pos terminate, if_pos terminate]
    exact lcpTerminateReq_answers ..
  rw [if_neg terminate, if_neg terminate]
  by_cases reject : memory 0 = protocolRej
  · rw [if_pos reject]
    by_cases ipv6 : rejectedProtocol memory (ntohs memory 2) = pppIpv6cp
    · rw [if_pos ipv6, if_pos ⟨reject, ipv6⟩, changeState_line]
      exact Turn.rejected.answers
    · rw [if_neg ipv6, if_neg fun both => ipv6 both.2]
      exact Turn.other.answers
  rw [if_neg reject, if_neg fun both => reject both.1]
  split
  · rw [lcpEchoReq_line]
    exact Turn.other.answers
  · split
    · exact Turn.other.answers
    · have told : (pppCodeRej st s pppLcp memory (ntohs memory 2)).line s = st.line s :=
        pppCodeRej_line .lcp memory _
      rw [told]
      exact Turn.other.answers

/-- A network protocol whose request and way up are those of its automaton. -/
structure Ncp.Lawful (ncp : Ncp) : Prop where
  upper : ncp.fsm ≠ .lcp
  proto : ncp.proto = ncp.fsm.proto
  asks : ∀ st s, Line.Asks ncp.fsm (State.line st s) ((ncp.send st s).line s)
  rises : ∀ st s, Phase.network.code ≤ (State.line st s).ppp.phase.code →
    Rises ncp.fsm (st.line s) ((ncp.up st s).line s)

namespace Ncp

variable {ncp : Ncp}

theorem Lawful.down (lawful : ncp.Lawful) (line : Line) : line.down ncp.fsm = line :=
  if_neg lawful.upper

theorem Lawful.configAck_answers (lawful : ncp.Lawful)
    (runs : Phase.network.code ≤ (st.line s).ppp.phase.code) (packet : List UInt8) (named : Nat) :
    Answers (.ack ncp.fsm packet named) (st.line s) ((ncp.configAck st s).line s) := by
  have state : (st.line s).ppp.state ncp.fsm = (st.session s).ppp.state ncp.fsm := rfl
  unfold configAck
  split
  · rename_i sent
    rw [changeState_line, initialiseRestartCount_line]
    exact (Turn.acked (state.trans sent)).answers
  · rename_i received
    rw [changeState_line]
    exact (Turn.crossed (state.trans received) (lawful.asks st s)).answers
  · rename_i opened
    rw [changeState_line]
    apply Turn.answers
    apply Turn.reopened (state.trans opened)
    rw [lawful.down]
    exact lawful.asks st s
  · rename_i sent
    exact (Turn.agreed (state.trans sent) (lawful.rises st s runs)).answers
  · exact Turn.unheeded.answers

/-- A request is answered in one turn. What is sent for it is its acknowledgement, or no
part of the negotiation. -/
theorem Lawful.reply_answers (lawful : ncp.Lawful)
    (runs : Phase.network.code ≤ (st.line s).ppp.phase.code) (acks : Bool) (memory : Memory)
    {request packet : List UInt8}
    (fits : ∀ line : Line, line.say ncp.fsm packet = line.answer ncp.fsm request acks) :
    Answers (.request ncp.fsm request) (st.line s)
      ((ncp.reply st s acks memory packet).line s) := by
  have state : (st.line s).ppp.state ncp.fsm = (st.session s).ppp.state ncp.fsm := rfl
  have said (next : State) : (next.emit (.ppp s ncp.proto packet)).line s =
      (next.line s).answer ncp.fsm request acks := by
    rw [lawful.proto, emit_say, fits]
  have unsaid (other : (st.session s).ppp.state ncp.fsm ≠ .ackSent)
      (waiting : (st.session s).ppp.state ncp.fsm ≠ .ackReceived) :
      Answers (.request ncp.fsm request) (st.line s) (st.line s) :=
    (Turn.passive false other waiting).answers
  unfold reply answerReq
  dsimp only
  cases own : (st.session s).ppp.state ncp.fsm with
  | closed =>
      simp only [not_true_eq_false, ↓reduceIte]
      have told : (sendTerminateAck st s ncp.proto memory).line s = st.line s := by
        rw [lawful.proto]
        exact sendTerminateAck_line ncp.fsm memory
      rw [told]
      exact unsaid (by rw [own]; nofun) (by rw [own]; nofun)
  | stopped =>
      simp only [not_true_eq_false, reduceCtorEq, ↓reduceIte]
      rw [said, changeState_line]
      apply Turn.answers
      apply Turn.started acks (state.trans own)
      rw [← initialiseRestartCount_line ncp.fsm]
      exact lawful.asks _ s
  | opened =>
      simp only [not_true_eq_false, reduceCtorEq, ↓reduceIte]
      rw [said, changeState_line]
      apply Turn.answers
      apply Turn.restarted acks (state.trans own)
      rw [lawful.down, ← initialiseRestartCount_line ncp.fsm]
      exact lawful.asks _ s
  | requestSent =>
      simp only [not_true_eq_false, reduceCtorEq, ↓reduceIte]
      rw [said]
      have moved : (if acks = true then changeState st s ncp.fsm .ackSent else st).line s =
          (st.line s).set ncp.fsm (.answered acks) := by
        cases acks with
        | true => exact changeState_line ..
        | false =>
            rw [if_neg nofun, FsmState.answered, if_neg nofun, ← own]
            unfold Line.set State.line
            rw [Ppp.setState_state]
      rw [moved]
      exact (Turn.answered acks (.inl (state.trans own))).answers
  | ackReceived =>
      simp only [not_true_eq_false, reduceCtorEq, ↓reduceIte]
      rw [said]
      cases acks with
      | true =>
          rw [if_pos rfl]
          exact (Turn.received (state.trans own) (lawful.rises st s runs)).answers
      | false =>
          rw [if_neg nofun]
          exact (Turn.withheld (state.trans own)).answers
  | ackSent =>
      simp only [not_true_eq_false, reduceCtorEq, ↓reduceIte]
      rw [said, changeState_line]
      exact (Turn.answered acks (.inr (state.trans own))).answers
  | initial | starting | closing
  | stopping => exact unsaid (by rw [own]; nofun) (by rw [own]; nofun)

theorem Lawful.terminateReq_answers (lawful : ncp.Lawful) (t : Nat) (memory : Memory) (l : Nat) :
    Answers (.terminate ncp.fsm) (st.line s) ((ncp.terminateReq st s t memory l).line s) := by
  have back (st : State) :
      (sendBack st s t ncp.proto terminateAck memory l).line s = st.line s := by
    rw [lawful.proto]
    exact sendBack_line t ncp.fsm memory l (by decide) (by decide)
  unfold terminateReq
  split
  · exact Turn.unterminated.answers
  · exact Turn.unterminated.answers
  · rename_i opened
    dsimp only
    rw [back, changeState_line, zeroRestartCount_line]
    have up : (st.line s).ppp.state ncp.fsm = .opened := opened
    have turn := (Turn.terminated up).answers
    rw [lawful.down] at turn
    exact turn
  · rw [back]
    exact Turn.unterminated.answers

/-- How far a request is read: the line is as it was, and what is collected refuses. -/
def Request.Sound (line : Line) (s : Nat) (request : Request) : Prop :=
  request.st.line s = line ∧ request.answer.Refuses

def Request.Reads (line : Line) (s : Nat) : Except State Request → Prop
  | .error ended => Fades line (ended.line s)
  | .ok request => request.Sound line s

def ReadsOption (s : Nat) (option : Request → Nat → Except State Request) : Prop :=
  ∀ line request o, Request.Sound line s request → Request.Reads line s (option request o)

theorem ReadsOption.walk {option : Request → Nat → Except State Request}
    (reads : ReadsOption s option) (memory : Memory) (fuel o length : Nat) {line : Line}
    {request : Request} (sound : request.Sound line s) :
    Request.Reads line s (walk option memory fuel o length request) := by
  induction fuel generalizing o length request with
  | zero => exact sound
  | succ fuel ih =>
      unfold Ncp.walk
      dsimp only
      split
      · exact sound
      split
      · exact .of_eq sound.1
      · have read := reads line request o sound
        split
        · rename_i ended same
          rw [same] at read
          exact read
        · rename_i later same
          rw [same] at read
          exact ih _ _ read

theorem Request.Sound.expect {line : Line} {request : Request} (sound : request.Sound line s)
    (fsm : Fsm) (header : Nat) (memory : Memory) (o : Nat) (value : List UInt8) :
    (request.expect fsm s header memory o value).1.Sound line s := by
  unfold Request.expect
  split
  · exact sound
  · exact ⟨(pppConfNak_line ..).trans sound.1, pppConfNak_refuses sound.2 _ _ _ _⟩

theorem Request.Sound.reject {line : Line} {request : Request} (sound : request.Sound line s)
    (header : Nat) (memory : Memory) (o : Nat) :
    Request.Reads line s (request.reject header memory o) := by
  unfold Request.reject
  dsimp only
  split
  · exact .of_eq sound.1
  · exact ⟨sound.1, pppConfRej_refuses sound.2 _ _⟩

theorem Lawful.configReq_answers (lawful : ncp.Lawful)
    (runs : Phase.network.code ≤ (st.line s).ppp.phase.code)
    {option : Nat → Request → Nat → Except State Request}
    (reads : ∀ header, ReadsOption s (option header)) (t : Nat) (memory : Memory) (l : Nat) :
    Answers (if ncp.drops option st s t memory l then .dropped ncp.fsm (readBytes memory 0 l)
      else .request ncp.fsm (readBytes memory 0 l)) (st.line s)
      ((ncp.configReq option st s t memory l).line s) := by
  have walked : Request.Reads (st.line s) s (ncp.walked option st s t memory l) :=
    (reads _).walk memory _ _ _ ⟨rfl, Answer.none_refuses⟩
  unfold configReq
  by_cases drops : ncp.drops option st s t memory l = true
  · rw [if_pos drops]
    split
    · rename_i ended same
      rw [same] at walked
      exact Turn.dropped.answers.fades walked
    · rename_i request same
      rw [same] at walked
      rw [if_pos drops, walked.1]
      exact Turn.dropped.answers
  · rw [if_neg drops]
    split
    · rename_i ended same
      unfold Ncp.drops at drops
      rw [same] at drops
      exact absurd rfl drops
    · rename_i request same
      rw [same] at walked
      rw [if_neg drops, ← walked.1]
      apply lawful.reply_answers
      · rw [walked.1]
        exact runs
      · exact fun line => request.answer.packet_say walked.2 ncp.fsm memory l line

/-- What a packet of a network protocol says when it is looked at. -/
def heard (ncp : Ncp) (option : Nat → Request → Nat → Except State Request) (st : State)
    (s t : Nat) (memory : Memory) (l : Nat) : Heard :=
  let code := memory 0
  let packet := readBytes memory 0 l
  if code = Server.configAck then .ack ncp.fsm packet 0
  else if code = Server.configReq then
    if ncp.drops option st s t memory l then .dropped ncp.fsm packet
    else .request ncp.fsm packet
  else if code = Server.terminateReq then .terminate ncp.fsm
  else .other

theorem Lawful.process_answers (lawful : ncp.Lawful)
    (runs : Phase.network.code ≤ (st.line s).ppp.phase.code)
    {option : Nat → Request → Nat → Except State Request}
    (reads : ∀ header, ReadsOption s (option header)) (t : Nat) (memory : Memory) (l : Nat) :
    Answers (ncp.heard option st s t memory l) (st.line s)
      ((ncp.process option st s t memory l).line s) := by
  unfold heard process
  dsimp only
  split
  · exact lawful.configAck_answers runs ..
  split
  · exact lawful.configReq_answers runs reads ..
  split
  · exact lawful.terminateReq_answers ..
  split
  · exact Turn.other.answers
  · rw [lawful.proto, pppCodeRej_line]
    exact Turn.other.answers

end Ncp

theorem ipcp_lawful : ipcp.Lawful where
  upper := nofun
  proto := rfl
  asks _ _ := sendipcp_asks
  rises _ _ runs := .ipcp runs ipcpOpen_rises

theorem ipcpOption_reads : Ncp.ReadsOption s (ipcpOption s memory header) := by
  intro line request o sound
  have dns (wrong : Prop) [Decidable wrong] (address : InAddr) : Ncp.Request.Reads line s
      (if wrong then .error request.st
      else
        let expected := request.expect .ipcp s header memory o (bytes32 address.toNat)
        if expected.2 then .error expected.1.st else .ok expected.1) := by
    have expected := sound.expect .ipcp header memory o (bytes32 address.toNat)
    split
    · exact .of_eq sound.1
    · dsimp only
      split
      · exact .of_eq expected.1
      · exact expected
  unfold ipcpOption
  dsimp only
  split
  · have seen : ({ request with gotip := true } : Ncp.Request).Sound line s := sound
    have expected := seen.expect .ipcp header memory o
      (bytes32 (request.st.session s).ip.toNat)
    split
    · exact .of_eq sound.1
    · split
      · refine Fades.trans (.of_eq expected.1) (sessionshutdown_fades ..)
      · exact expected
  · exact dns ..
  · exact dns ..
  · exact sound.reject header memory o

/-- What an IPCP packet says. A request outside the network phase is dropped. -/
def ipcpHeard (st : State) (s t : Nat) (memory : Memory) (l : Nat) : Heard :=
  let hl := ntohs memory 2
  if l < 4 ∨ hl > l then .other
  else if (st.session s).ppp.phase.code < Phase.network.code then
    if memory 0 = configReq then .dropped .ipcp (readBytes memory 0 hl) else .other
  else ipcp.heard (ipcpOption s memory) st s t memory hl

theorem processipcp_answers :
    Answers (ipcpHeard st s t memory l) (st.line s) ((processipcp st s t memory l).line s) := by
  unfold ipcpHeard processipcp
  dsimp only
  by_cases short : l < 4
  · rw [if_pos short, if_pos (.inl short)]
    exact Turn.other.answers
  rw [if_neg short]
  by_cases long : ntohs memory 2 > l
  · rw [if_pos long, if_pos (.inr long)]
    exact Turn.other.answers
  rw [if_neg long, if_neg (not_or.mpr ⟨short, long⟩)]
  by_cases early : (st.session s).ppp.phase.code < Phase.network.code
  · simp only [early, ↓reduceIte]
    split
    · exact Turn.dropped.answers
    · exact Turn.other.answers
  · simp only [early, ↓reduceIte]
    exact ipcp_lawful.process_answers (Nat.le_of_not_lt early) (ipcpOption_reads memory) ..

theorem ipv6cpOpen_line : (ipv6cpOpen st s).line s = (st.line s).set .ipv6cp .opened := by
  unfold ipv6cpOpen sendIpv6Ra
  dsimp only
  rw [emit_line (Effect.quiet_proto (fun fsm => by cases fsm <;> decide) _ _)]
  split
  · rw [route6set_line, route6setAll_line, changeState_line]
  · rw [route6setAll_line, changeState_line]

theorem ipv6cp_lawful : ipv6cp.Lawful where
  upper := nofun
  proto := rfl
  asks _ _ := sendipv6cp_asks
  rises st s runs := by
    change Rises .ipv6cp _ ((ipv6cpOpen st s).line s)
    rw [ipv6cpOpen_line]
    exact .ipv6cp runs

theorem ipv6cpOption_reads : Ncp.ReadsOption s (ipv6cpOption s memory header) := by
  intro line request o sound
  have seen : ({ request with gotip := true } : Ncp.Request).Sound line s := sound
  have expected := seen.expect .ipv6cp header memory o (interfaceIdent (request.st.session s))
  unfold ipv6cpOption
  dsimp only
  split
  · split
    · exact .of_eq sound.1
    · split
      · exact .of_eq expected.1
      · exact expected
  · exact sound.reject header memory o

/-- What an IPV6CP packet says. A request outside the network phase is dropped, and so is
one of a session without an IPv4 address. -/
def ipv6cpHeard (st : State) (s t : Nat) (memory : Memory) (l : Nat) : Heard :=
  let hl := ntohs memory 2
  if l < 4 ∨ hl > l then .other
  else if (st.session s).ppp.phase.code < Phase.network.code ∨ (st.session s).ip = 0 then
    if memory 0 = configReq then .dropped .ipv6cp (readBytes memory 0 hl) else .other
  else ipv6cp.heard (ipv6cpOption s memory) st s t memory hl

theorem processipv6cp_answers :
    Answers (ipv6cpHeard st s t memory l) (st.line s)
      ((processipv6cp st s t memory l).line s) := by
  unfold ipv6cpHeard processipv6cp
  dsimp only
  by_cases short : l < 4
  · rw [if_pos short, if_pos (.inl short)]
    exact Turn.other.answers
  rw [if_neg short]
  by_cases long : ntohs memory 2 > l
  · rw [if_pos long, if_pos (.inr long)]
    exact Turn.other.answers
  rw [if_neg long, if_neg (not_or.mpr ⟨short, long⟩)]
  by_cases early : (st.session s).ppp.phase.code < Phase.network.code
  · simp only [early, true_or, ↓reduceIte]
    split
    · exact Turn.dropped.answers
    · exact Turn.other.answers
  by_cases unaddressed : (st.session s).ip = 0
  · simp only [early, unaddressed, or_true, ↓reduceIte]
    split
    · exact Turn.dropped.answers
    · exact Turn.other.answers
  · simp only [early, unaddressed, or_self, ↓reduceIte]
    exact ipv6cp_lawful.process_answers (Nat.le_of_not_lt early) (ipv6cpOption_reads memory) ..

theorem ccp_lawful : ccp.Lawful where
  upper := nofun
  proto := rfl
  asks _ _ := sendccp_asks
  rises st s runs := by
    change Rises .ccp _ ((changeState st s .ccp .opened).line s)
    rw [changeState_line]
    exact .ccp runs

/-- What a CCP packet says. -/
def ccpHeard (st : State) (s t : Nat) (memory : Memory) (l : Nat) : Heard :=
  let code := memory 0
  let packet := readBytes memory 0 l
  if (st.session s).ppp.phase.code < Phase.network.code then
    if code = configReq then .dropped .ccp packet else .other
  else if code = configAck then .ack .ccp packet 0
  else if code = configReq then
    if pppFits st s t pppCcp l then .request .ccp packet else .dropped .ccp packet
  else if code = terminateReq then .terminate .ccp
  else .other

theorem ccpConfigReq_answers (runs : Phase.network.code ≤ (st.line s).ppp.phase.code) (t : Nat)
    (memory : Memory) (l : Nat) :
    Answers (if pppFits st s t pppCcp l then .request .ccp (readBytes memory 0 l)
      else .dropped .ccp (readBytes memory 0 l)) (st.line s)
      ((ccpConfigReq st s t memory l).line s) := by
  unfold ccpConfigReq
  dsimp only
  split
  · apply ccp_lawful.reply_answers runs
    intro line
    unfold Line.answer
    by_cases empty : l < 6
    · simp only [empty, ↓reduceIte, decide_true]
      rw [readBytes_ack]
    · have rejected : ¬ configRej = configAck := by decide
      simp only [empty, ↓reduceIte, rejected, decide_false, Bool.false_eq_true]
      exact Line.say_quiet (readBytes_quiet memory l (by decide) (by decide)) _
  · exact Turn.dropped.answers

theorem processccp_answers :
    Answers (ccpHeard st s t memory l) (st.line s) ((processccp st s t memory l).line s) := by
  unfold ccpHeard processccp
  dsimp only
  by_cases early : (st.session s).ppp.phase.code < Phase.network.code
  · simp only [early, ↓reduceIte]
    split
    · exact Turn.dropped.answers
    · exact Turn.other.answers
  simp only [early, ↓reduceIte]
  have runs := Nat.le_of_not_lt early
  split
  · exact ccp_lawful.configAck_answers runs ..
  split
  · exact ccpConfigReq_answers runs ..
  split
  · split
    · rw [changeState_line, show pppCcp = Fsm.ccp.proto from rfl,
        sendBack_line t .ccp memory l (by decide) (by decide)]
      exact Turn.stopped.answers
    · exact Turn.unterminated.answers
  split
  · exact Turn.other.answers
  · rw [show pppCcp = Fsm.ccp.proto from rfl, pppCodeRej_line]
    exact Turn.other.answers

end L2tpns.Server
