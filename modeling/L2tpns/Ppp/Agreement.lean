import L2tpns.Foundation.Agreement
import L2tpns.Ppp.Consistency

/-! # Opened means agreed

What was asked for and acknowledged on a session is recorded beside its state
(`Exchange`). An automaton that waits in `ackReceived` has its last request granted, and
one that waits in `ackSent` has acknowledged the last request it heard, as long as
acknowledgements match and every request is answered (`Attentive`); so both parties agree
when it comes up (`opened_agreed`).
-/

namespace L2tpns.Server

open Avp (Memory ntohs readBytes)
open Foundation (TransitionSystem Dealing Granted Acked Agreed lastAsked lastHeard lastHeard_append
  lastHeard_append_heard)
open Line (Fades Asks IpcpRises LcpRises Answers Turn Drifts Drifting Rises)

/-- The identifier, the length and the options of a request or an acknowledgement. -/
abbrev Terms := List UInt8

/-- What is said in a negotiation. -/
def dealingOf (packet : List UInt8) : Dealing Terms :=
  if packet.head? = some configReq then .asked packet.tail else .acked packet.tail

/-- What a valid packet says. -/
def dealingsIn (memory : Memory) (l : Nat) : List (Dealing Terms) :=
  if memory 0 = configAck then [.granted (readBytes memory 0 l).tail]
  else if memory 0 = configReq then [.heard (readBytes memory 0 l).tail]
  else []

theorem dealingOf_ack (rest : List UInt8) : dealingOf (configAck :: rest) = .acked rest :=
  rfl

namespace Line

variable {line line' line'' : Line}

@[simp] theorem set_talk (fsm : Fsm) (state : FsmState) : (line.set fsm state).talk = line.talk :=
  rfl

theorem set_state (fsm : Fsm) : line.set fsm (line.ppp.state fsm) = line := by
  unfold set
  rw [Ppp.setState_state]

@[simp] theorem enter_talk (phase : Phase) : (line.enter phase).talk = line.talk := rfl

@[simp] theorem restart_talk : line.restart.talk = line.talk := rfl

@[simp] theorem down_talk (fsm : Fsm) : (line.down fsm).talk = line.talk := by
  unfold down
  split <;> rfl

theorem say_talk {fsm : Fsm} {packet : List UInt8} (heard : negotiates packet = true) :
    (line.say fsm packet).talk fsm = line.talk fsm ++ [packet] := by
  unfold say
  rw [if_pos heard]
  exact Function.update_self ..

theorem say_talk_other {fsm other : Fsm} (foreign : other ≠ fsm) (packet : List UInt8) :
    (line.say fsm packet).talk other = line.talk other := by
  unfold say
  split
  · exact Function.update_of_ne foreign ..
  · rfl

theorem Asks.talk {fsm : Fsm} {asked : Line} (asks : Asks fsm line asked) :
    ∃ packet, packet.head? = some configReq ∧ asked.talk fsm = line.talk fsm ++ [packet] := by
  obtain ⟨packet, request, rfl⟩ := asks
  refine ⟨packet, request, say_talk ?_⟩
  simp [negotiates, request]

theorem Asks.talk_other {fsm other : Fsm} {asked : Line} (asks : Asks fsm line asked)
    (foreign : other ≠ fsm) : asked.talk other = line.talk other := by
  obtain ⟨packet, _, rfl⟩ := asks
  exact say_talk_other foreign packet

theorem answer_talk {fsm : Fsm} {packet : List UInt8} (whole : packet ≠ []) (acks : Bool) :
    (line.answer fsm packet acks).talk fsm =
      line.talk fsm ++ if acks then [configAck :: packet.tail] else [] := by
  cases acks with
  | false => exact (List.append_nil _).symm
  | true =>
      cases packet with
      | nil => exact absurd rfl whole
      | cons code rest => exact @say_talk line fsm (configAck :: rest) rfl

theorem answer_talk_other {fsm other : Fsm} (foreign : other ≠ fsm) (packet : List UInt8)
    (acks : Bool) : (line.answer fsm packet acks).talk other = line.talk other := by
  unfold answer
  split
  · exact say_talk_other foreign _
  · rfl

end Line

/-- An automaton that waits for one half of an agreement. -/
def FsmState.waits : FsmState → Bool
  | .ackReceived => true
  | .ackSent => true
  | _ => false

theorem FsmState.quiet {state : FsmState} (received : state ≠ .ackReceived)
    (sent : state ≠ .ackSent) : state.waits = false := by
  cases state with
  | ackReceived => exact absurd rfl received
  | ackSent => exact absurd rfl sent
  | _ => rfl

/-- What an automaton does when it has no packet to answer: nothing, something that ends
its wait, or another request while it waits in `ackSent`. -/
inductive Line.Stands (fsm : Fsm) (line line' : Line) : Prop where
  | untouched (state : line'.ppp.state fsm = line.ppp.state fsm)
      (talk : line'.talk fsm = line.talk fsm)
  | reset (said : List (List UInt8)) (state : (line'.ppp.state fsm).waits = false)
      (talk : line'.talk fsm = line.talk fsm ++ said)
  | asks (said : List (List UInt8)) (requests : ∀ packet ∈ said, packet.head? = some configReq)
      (before : line.ppp.state fsm = .ackSent) (state : line'.ppp.state fsm = .ackSent)
      (talk : line'.talk fsm = line.talk fsm ++ said)

namespace Line

variable {line line' line'' : Line} {fsm : Fsm}

theorem Stands.same : Stands fsm line line := .untouched rfl rfl

theorem Stands.trans (first : Stands fsm line line') (second : Stands fsm line' line'') :
    Stands fsm line line'' := by
  cases second with
  | untouched state talk =>
      cases first with
      | untouched earlier before => exact .untouched (state.trans earlier) (talk.trans before)
      | reset said earlier before => exact .reset said (state ▸ earlier) (talk.trans before)
      | asks said requests sent earlier before =>
          exact .asks said requests sent (state.trans earlier) (talk.trans before)
  | reset said state talk =>
      have whole : ∃ earlier, line'.talk fsm = line.talk fsm ++ earlier := by
        cases first with
        | untouched _ before => exact ⟨[], by simp [before]⟩
        | reset earlier _ before | asks earlier _ _ _ before => exact ⟨earlier, before⟩
      obtain ⟨earlier, before⟩ := whole
      refine .reset (earlier ++ said) state ?_
      rw [talk, before, List.append_assoc]
  | asks said requests sent state talk =>
      cases first with
      | untouched earlier before =>
          exact .asks said requests (earlier ▸ sent) state (before ▸ talk)
      | reset _ quiet _ =>
          rw [sent] at quiet
          cases quiet
      | asks earlier asked waits _ before =>
          refine .asks (earlier ++ said) (fun packet member => ?_) waits state ?_
          · rcases List.mem_append.mp member with early | late
            · exact asked packet early
            · exact requests packet late
          · rw [talk, before, List.append_assoc]

theorem Stands.set (other : Fsm) {state : FsmState} (quiet : state.waits = false) :
    Stands fsm line (line.set other state) := by
  by_cases same : fsm = other
  · subst same
    refine .reset [] ?_ (List.append_nil _).symm
    rw [set_ppp, Ppp.setState_same]
    exact quiet
  · refine .untouched ?_ rfl
    rw [set_ppp, Ppp.setState_other _ _ same]

theorem Stands.enter (phase : Phase) : Stands fsm line (line.enter phase) := by
  refine .untouched ?_ rfl
  cases fsm <;> rfl

theorem Stands.grant (authtype : Nat) : Stands fsm line (line.grant authtype) := .untouched rfl rfl

theorem Stands.restart : Stands fsm line line.restart :=
  (((Stands.enter .establish).trans (.set .ipcp rfl)).trans
    (.set .ipv6cp rfl)).trans (.set .ccp rfl)

theorem Stands.down (other : Fsm) : Stands fsm line (line.down other) := by
  unfold Line.down
  split
  · exact .restart
  · exact .same

theorem Stands.asked {other : Fsm} {asked : Line} (asks : Asks other line asked) {state : FsmState}
    (quiet : state.waits = false) : Stands fsm line (asked.set other state) := by
  by_cases same : fsm = other
  · subst same
    obtain ⟨packet, _, talk⟩ := asks.talk
    refine .reset [packet] ?_ talk
    rw [set_ppp, Ppp.setState_same]
    exact quiet
  · refine .untouched ?_ (asks.talk_other same)
    rw [set_ppp, Ppp.setState_other _ _ same, asks.ppp]

/-- A request while its automaton is not in `ackReceived`. -/
theorem Stands.repeated {other : Fsm} {asked : Line} (asks : Asks other line asked)
    (state : line.ppp.state other ≠ .ackReceived) : Stands fsm line asked := by
  have kept : asked.ppp.state fsm = line.ppp.state fsm := by
    rw [asks.ppp]
  by_cases same : fsm = other
  · subst same
    obtain ⟨packet, request, talk⟩ := asks.talk
    by_cases sent : line.ppp.state fsm = .ackSent
    · refine .asks [packet] (fun other member => ?_) sent (kept.trans sent) talk
      rw [List.mem_singleton.mp member]
      exact request
    · refine .reset [packet] ?_ talk
      rw [kept]
      exact FsmState.quiet state sent
  · exact .untouched kept (asks.talk_other same)

theorem Stands.fades (fades : Fades line line') : Stands fsm line line' := by
  have zero : (Ppp.zero.state fsm).waits = false := by
    cases fsm <;> rfl
  cases fades with
  | same => exact .same
  | shut | cleared => exact .reset [] zero (List.append_nil _).symm

theorem IpcpRises.stands (rises : IpcpRises line line') : Stands fsm line line' := by
  have opened : Stands fsm line (line.set .ipcp .opened) := .set .ipcp rfl
  cases rises with
  | alone => exact opened
  | starting _ asks => exact opened.trans (.asked asks rfl)

theorem LcpRises.stands (rises : LcpRises line line') : Stands fsm line line' := by
  have opened (phase : Phase) : Stands fsm line ((line.enter phase).set .lcp .opened) :=
    (Stands.enter phase).trans (.set .lcp rfl)
  cases rises with
  | gated => exact opened _
  | network ipv6 _ asks passive =>
      have idle : ipv6.waits = false := by
        rcases passive with rfl | rfl
        · rfl
        · rfl
      exact (((opened _).trans (.asked asks rfl)).trans
        (.set .ipv6cp idle)).trans (.set .ccp rfl)
  | bundled _ rises => exact (opened _).trans rises.stands

theorem Rises.stands {other : Fsm} (rises : Rises other line line') : Stands fsm line line' := by
  cases rises with
  | lcp rises | ipcp _ rises => exact rises.stands
  | ipv6cp | ccp => exact .set _ rfl

/-- An automaton that comes up says nothing more. -/
theorem Rises.talk (rises : Rises fsm line line') : line'.talk fsm = line.talk fsm := by
  have ipcp {line line' : Line} (rises : IpcpRises line line') :
      line'.talk .ipcp = line.talk .ipcp ∧ line'.talk .lcp = line.talk .lcp := by
    cases rises with
    | alone => exact ⟨rfl, rfl⟩
    | starting _ asks => exact ⟨asks.talk_other nofun, asks.talk_other nofun⟩
  cases rises with
  | lcp rises =>
      cases rises with
      | gated => rfl
      | network _ _ asks => exact asks.talk_other nofun
      | bundled _ rises => exact (ipcp rises).2
  | ipcp _ rises => exact (ipcp rises).1
  | ipv6cp | ccp => rfl

end Line

/-- What a packet of the automaton says about its own negotiation. -/
def Heard.about (fsm : Fsm) : Heard → Bool
  | .ack spoken _ _ => spoken = fsm
  | .request spoken _ => spoken = fsm
  | .dropped spoken _ => spoken = fsm
  | _ => false

/-- A packet of the protocol of the automaton. -/
def Heard.Of (fsm : Fsm) : Heard → Prop
  | .ack spoken _ _ => spoken = fsm
  | .request spoken _ => spoken = fsm
  | .dropped spoken _ => spoken = fsm
  | .terminate spoken => spoken = fsm
  | .refusal => fsm = .lcp
  | .rejected => fsm = .lcp
  | .other => True

namespace Line

variable {line line' line'' : Line} {fsm : Fsm} {heard : Heard}

/-- An automaton stands by while another one is spoken to. -/
theorem Turn.stands (turn : Turn heard line line') (foreign : heard.about fsm = false)
    (unrefused : heard = .refusal → line.ppp.lcp ≠ .ackReceived) : Stands fsm line line' := by
  have beside {other : Fsm} (differs : decide (other = fsm) = false) : fsm ≠ other :=
    fun same => of_decide_eq_false differs same.symm
  have answered {other : Fsm} (differs : fsm ≠ other) {asked : Line} {packet : List UInt8}
      (acks : Bool) (stands : Stands fsm line asked) :
      Stands fsm line ((asked.set other (.answered acks)).answer other packet acks) := by
    refine stands.trans (.untouched ?_ ?_)
    · rw [answer_ppp, set_ppp, Ppp.setState_other _ _ differs]
    · rw [answer_talk_other differs, set_talk]
  have said {other : Fsm} (differs : fsm ≠ other) (asked : Line) (packet : List UInt8)
      (acks : Bool) : Stands fsm asked (asked.answer other packet acks) := by
    refine .untouched ?_ (answer_talk_other differs packet acks)
    rw [answer_ppp]
  have moved {other : Fsm} (differs : fsm ≠ other) {before asked : Line}
      (stands : Stands fsm line before) (asks : Asks other before asked) :
      Stands fsm line asked := by
    refine stands.trans (.untouched ?_ (asks.talk_other differs))
    rw [asks.ppp]
  cases turn with
  | acked => exact Stands.untouched (Ppp.setState_other _ _ (beside foreign)) rfl
  | crossed _ asks => exact .asked asks rfl
  | reopened _ asks => exact (Stands.down _).trans (.asked asks rfl)
  | agreed _ rises => exact rises.stands
  | unheeded | withheld | dropped | unrefused | unterminated | other => exact .same
  | started acks _ asks => exact answered (beside foreign) acks (moved (beside foreign) .same asks)
  | restarted acks _ asks =>
      exact answered (beside foreign) acks (moved (beside foreign) (.down _) asks)
  | answered acks => exact answered (beside foreign) acks .same
  | received _ rises => exact rises.stands.trans (said (beside foreign) ..)
  | passive => exact said (beside foreign) ..
  | refused asks => exact .repeated asks (unrefused rfl)
  | refusedOpened state asks =>
      have up : line.restart.ppp.lcp ≠ .ackReceived := fun received =>
        nomatch state.symm.trans received
      exact Stands.restart.trans (.repeated asks up)
  | terminated => exact (Stands.down _).trans (.set _ rfl)
  | stopped | rejected => exact .set _ rfl

theorem Drifting.stands {forwards accepts : Prop}
    (drifting : Drifting forwards accepts line line') : Stands fsm line line' := by
  induction drifting with
  | refl => exact .same
  | tail _ drifts ih =>
      apply ih.trans
      cases drifts with
      | fades fades => exact .fades fades
      | granted => exact .grant _
      | expired _ asks => exact .asked asks rfl
      | @resent asked own sent asks =>
          have again : asked.set own .ackSent = asked := by
            rw [← sent, ← asks.ppp]
            exact set_state own
          rw [again]
          exact .repeated asks (sent ▸ nofun)
      | lapsed => exact .set _ rfl
      | accepted _ rises => exact (Stands.grant 0).trans rises.stands
      | handed _ hands =>
          cases hands with
          | handed => exact .enter _
          | reused =>
              refine .reset [] ?_ (List.append_nil _).symm
              cases fsm <;> rfl

end Line

/-- What the state of an automaton says about its log. -/
structure Sound (state : FsmState) (log : List (Dealing Terms)) : Prop where
  granted : state = .ackReceived → Granted log
  acked : state = .ackSent → Acked log

/-- How an automaton goes on from a log, by what it says; where `own` holds, it comes up
only when both parties agree. -/
structure Proceeds (own : Prop) (fsm : Fsm) (line line' : Line) (log : List (Dealing Terms))
    (said : List (List UInt8)) : Prop where
  talk : line'.talk fsm = line.talk fsm ++ said
  sound : Sound (line'.ppp.state fsm) (log ++ said.map dealingOf)
  agreed : own → line.ppp.state fsm ≠ .opened → line'.ppp.state fsm = .opened →
    Agreed (log ++ said.map dealingOf)

variable {line line' line'' : Line} {fsm : Fsm} {log items : List (Dealing Terms)} {own : Prop}
  {state : FsmState}

theorem Sound.quiet (quiet : state.waits = false) : Sound state log where
  granted received := by
    rw [received] at quiet
    cases quiet
  acked sent := by
    rw [sent] at quiet
    cases quiet

theorem Sound.append (sound : Sound state log) (unasked : ∀ terms, .asked terms ∉ items)
    (unheard : ∀ terms, .heard terms ∉ items) : Sound state (log ++ items) where
  granted received := (sound.granted received).append unasked
  acked sent := (sound.acked sent).append unheard

theorem said_unheard (said : List (List UInt8)) (terms : Terms) :
    .heard terms ∉ said.map dealingOf := by
  intro member
  obtain ⟨packet, _, same⟩ := List.mem_map.mp member
  unfold dealingOf at same
  split at same
  · cases same
  · cases same

theorem Line.Stands.proceeds (stands : Stands fsm line line')
    (sound : Sound (line.ppp.state fsm) log)
    (kept : own → line'.ppp.state fsm = .opened → line.ppp.state fsm = .opened) :
    ∃ said, Proceeds own fsm line line' log said := by
  have agreed (said : List (List UInt8)) (holds : own) (closed : line.ppp.state fsm ≠ .opened)
      (opened : line'.ppp.state fsm = .opened) : Agreed (log ++ said.map dealingOf) :=
    absurd (kept holds opened) closed
  cases stands with
  | untouched state talk =>
      refine ⟨[], by simpa using talk, ?_, agreed []⟩
      rw [state]
      simpa using sound
  | reset said quiet talk => exact ⟨said, talk, .quiet quiet, agreed said⟩
  | asks said requests before state talk =>
      refine ⟨said, talk, ⟨fun received => ?_, fun _ => ?_⟩, agreed said⟩
      · cases state.symm.trans received
      · exact (sound.acked before).append (said_unheard said)

theorem Proceeds.fades {said : List (List UInt8)} (proceeds : Proceeds own fsm line line' log said)
    (fades : Fades line' line'') : Proceeds own fsm line line'' log said := by
  have zero : Ppp.zero.state fsm = .initial := by
    cases fsm <;> rfl
  have ended {last : Line} (ppp : last.ppp = .zero) (talk : last.talk = line'.talk) :
      Proceeds own fsm line last log said := by
    have state : last.ppp.state fsm = .initial := by
      rw [ppp, zero]
    refine ⟨talk ▸ proceeds.talk, state ▸ .quiet rfl, fun _ _ opened => ?_⟩
    rw [state] at opened
    cases opened
  cases fades with
  | same => exact proceeds
  | shut | cleared => exact ended rfl rfl

namespace Line

/-- An automaton that rises comes up. -/
theorem Rises.opened (rises : Rises fsm line line') : line'.ppp.state fsm = .opened := by
  have ipcp {line line' : Line} (rises : IpcpRises line line') :
      line'.ppp.ipcp = .opened ∧ line'.ppp.lcp = line.ppp.lcp := by
    cases rises with
    | alone => exact ⟨rfl, rfl⟩
    | starting _ asks =>
        rw [set_ppp, asks.ppp]
        exact ⟨rfl, rfl⟩
  cases rises with
  | lcp rises =>
      cases rises with
      | gated => rfl
      | network _ _ asks =>
          rw [set_ppp, set_ppp, set_ppp, asks.ppp]
          rfl
      | bundled _ rises => exact (ipcp rises).2
  | ipcp _ rises => exact (ipcp rises).1
  | ipv6cp | ccp => rfl

/-- An acknowledgement that matches the last request is heeded. -/
theorem Turn.ack_proceeds {packet : List UInt8} {named : Nat}
    (turn : Turn (.ack fsm packet named) line line') (sound : Sound (line.ppp.state fsm) log)
    (matched : line.ppp.state fsm = .requestSent ∨ line.ppp.state fsm = .ackSent →
      lastAsked log = some packet.tail) :
    ∃ said, Proceeds own fsm line line' (log ++ [.granted packet.tail]) said := by
  have asking {down asked : Line} (talk : down.talk = line.talk) (asks : Asks fsm down asked) :
      ∃ said, Proceeds own fsm line (asked.set fsm .requestSent)
        (log ++ [.granted packet.tail]) said := by
    obtain ⟨request, _, told⟩ := asks.talk
    have state : (asked.set fsm .requestSent).ppp.state fsm = .requestSent := Ppp.setState_same ..
    refine ⟨[request], by rw [set_talk, told, talk], ?_, fun _ _ opened => ?_⟩
    · rw [state]
      exact .quiet rfl
    · cases state.symm.trans opened
  cases turn with
  | acked sent =>
      have state : (line.set fsm .ackReceived).ppp.state fsm = .ackReceived :=
        Ppp.setState_same ..
      refine ⟨[], by simp, ?_, fun _ _ opened => nomatch state.symm.trans opened⟩
      rw [state, List.map_nil, List.append_nil]
      exact ⟨fun _ => .now (matched (.inl sent)), nofun⟩
  | crossed _ asks => exact asking rfl asks
  | reopened _ asks => exact asking (down_talk fsm) asks
  | agreed sent rises =>
      refine ⟨[], by simp [rises.talk], rises.opened ▸ .quiet rfl, fun _ _ _ => ?_⟩
      rw [List.map_nil, List.append_nil]
      exact ⟨.now (matched (.inr sent)), (sound.acked sent).append (by simp)⟩
  | unheeded =>
      refine ⟨[], by simp, ?_, fun _ closed opened => absurd opened closed⟩
      rw [List.map_nil, List.append_nil]
      exact sound.append (by simp) (by simp)

theorem answered_sound {packet : List UInt8} {requests : List (List UInt8)} (acks : Bool) :
    Sound (FsmState.answered acks) (log ++ [.heard packet.tail] ++
      (requests ++ if acks then [configAck :: packet.tail] else []).map dealingOf) := by
  cases acks with
  | false => exact .quiet rfl
  | true =>
      refine ⟨nofun, fun _ => ?_⟩
      rw [if_pos rfl, List.map_append, ← List.append_assoc]
      apply Acked.now
      rw [lastHeard_append (said_unheard requests), lastHeard_append_heard]
      rfl

/-- A request that is answered. -/
theorem Turn.request_proceeds {packet : List UInt8} (turn : Turn (.request fsm packet) line line')
    (sound : Sound (line.ppp.state fsm) log) (whole : packet ≠ []) :
    ∃ said, Proceeds own fsm line line' (log ++ [.heard packet.tail]) said := by
  have answering {asked : Line} {requests : List (List UInt8)} (acks : Bool)
      (talk : asked.talk fsm = line.talk fsm ++ requests) :
      ∃ said, Proceeds own fsm line ((asked.set fsm (.answered acks)).answer fsm packet acks)
        (log ++ [.heard packet.tail]) said := by
    have state : ((asked.set fsm (.answered acks)).answer fsm packet acks).ppp.state fsm =
        .answered acks := by
      rw [answer_ppp, set_ppp, Ppp.setState_same]
    refine ⟨requests ++ if acks then [configAck :: packet.tail] else [], ?_, ?_,
      fun _ _ opened => absurd (state.symm.trans opened) (FsmState.answered_below acks)⟩
    · rw [answer_talk whole, set_talk, talk, List.append_assoc]
    · rw [state]
      exact answered_sound acks
  cases turn with
  | started acks _ asks =>
      obtain ⟨request, _, talk⟩ := asks.talk
      exact answering acks talk
  | restarted acks _ asks =>
      obtain ⟨request, _, talk⟩ := asks.talk
      rw [down_talk] at talk
      exact answering acks talk
  | answered acks => exact answering acks (List.append_nil _).symm
  | @received _ _ _ up waits rises =>
      have state : (up.answer fsm packet true).ppp.state fsm = .opened := by
        rw [answer_ppp, rises.opened]
      refine ⟨[configAck :: packet.tail], ?_, state ▸ .quiet rfl, fun _ _ _ => ⟨?_, ?_⟩⟩
      · rw [answer_talk whole, rises.talk, if_pos rfl]
      · rw [List.append_assoc]
        exact (sound.granted waits).append (by simp [dealingOf_ack])
      · apply Acked.now
        rw [lastHeard_append_heard]
        rfl
  | withheld waits =>
      refine ⟨[], by simp, ?_, fun _ closed opened => absurd opened closed⟩
      rw [List.map_nil, List.append_nil]
      exact ⟨fun _ => (sound.granted waits).append (by simp),
        fun sent => nomatch waits.symm.trans sent⟩
  | passive acks idle waiting =>
      have state : (line.answer fsm packet acks).ppp.state fsm = line.ppp.state fsm := by
        rw [answer_ppp]
      refine ⟨_, answer_talk whole acks, ?_, fun _ closed opened =>
        absurd (state.symm.trans opened) closed⟩
      rw [state]
      exact .quiet (FsmState.quiet waiting idle)

/-- A packet of the protocol of an automaton that is neither a request nor an
acknowledgement does not bring it up. -/
theorem Turn.unopened {heard : Heard} (turn : Turn heard line line') (own : heard.Of fsm)
    (aside : heard.about fsm = false) (opened : line'.ppp.state fsm = .opened) :
    line.ppp.state fsm = .opened := by
  have spoken {other : Fsm} (same : other = fsm) (differs : decide (other = fsm) = false) : False :=
    of_decide_eq_false differs same
  cases turn with
  | dropped | unrefused | unterminated | other => exact opened
  | refused asks =>
      rw [asks.ppp] at opened
      exact opened
  | refusedOpened state asks | terminated state =>
      cases own
      exact state
  | stopped =>
      cases own
      cases opened
  | rejected =>
      cases own
      exact opened
  | _ => exact (spoken own aside).elim

end Line

/-- What a packet says by its bytes. -/
inductive Heard.Brings (fsm : Fsm) : Heard → List (Dealing Terms) → Prop where
  | ack (packet : List UInt8) (named : Nat) : Brings fsm (.ack fsm packet named)
      [.granted packet.tail]
  | request (packet : List UInt8) : Brings fsm (.request fsm packet) [.heard packet.tail]
  | dropped (packet : List UInt8) : Brings fsm (.dropped fsm packet) [.heard packet.tail]
  | nothing {heard : Heard} (aside : heard.about fsm = false) : Brings fsm heard []
  | unread {heard : Heard} (aside : heard.about fsm = false) (terms : Terms) :
      Brings fsm heard [.granted terms]

/-- What is heard does no harm to an agreement: an acknowledgement is of our last request,
a request has a header and is answered, and no refusal comes after the acknowledgement. -/
def Heard.Heeded (ppp : Ppp) (log : Fsm → List (Dealing Terms)) : Heard → Prop
  | .ack fsm packet _ => ppp.state fsm = .requestSent ∨ ppp.state fsm = .ackSent →
      lastAsked (log fsm) = some packet.tail
  | .request _ packet => packet ≠ []
  | .dropped fsm _ => ppp.state fsm ≠ .ackSent
  | .refusal => ppp.lcp ≠ .ackReceived
  | _ => True

theorem Line.Turn.proceeds {heard : Heard} {log : Fsm → List (Dealing Terms)}
    (turn : Turn heard line line') (brings : heard.Brings fsm items)
    (heeded : heard.Heeded line.ppp log) (sound : Sound (line.ppp.state fsm) (log fsm)) :
    ∃ said, Proceeds (heard.Of fsm) fsm line line' (log fsm ++ items) said := by
  have standing (aside : heard.about fsm = false)
      (recorded : Sound (line.ppp.state fsm) (log fsm ++ items)) :
      ∃ said, Proceeds (heard.Of fsm) fsm line line' (log fsm ++ items) said := by
    apply Stands.proceeds (turn.stands aside _) recorded
    · exact fun own opened => turn.unopened own aside opened
    · rintro rfl
      exact heeded
  cases brings with
  | ack packet named => exact turn.ack_proceeds sound heeded
  | request packet => exact turn.request_proceeds sound heeded
  | dropped packet =>
      cases turn
      refine ⟨[], by simp, ?_, fun _ closed opened => absurd opened closed⟩
      rw [List.map_nil, List.append_nil]
      exact ⟨fun received => (sound.granted received).append (by simp),
        fun sent => absurd sent heeded⟩
  | nothing aside => exact standing aside (sound.append nofun nofun)
  | unread aside terms => exact standing aside (sound.append (by simp) (by simp))

theorem Line.Answers.proceeds {heard : Heard} {log : Fsm → List (Dealing Terms)}
    (answers : Answers heard line line') (brings : heard.Brings fsm items)
    (heeded : heard.Heeded line.ppp log) (sound : Sound (line.ppp.state fsm) (log fsm)) :
    ∃ said, Proceeds (heard.Of fsm) fsm line line' (log fsm ++ items) said := by
  obtain ⟨adjusted, answered, adjusts, turn, fades⟩ := answers
  have same : adjusted.ppp = line.ppp ∧ adjusted.talk = line.talk := by
    cases adjusts <;> exact ⟨rfl, rfl⟩
  obtain ⟨said, proceeds⟩ := turn.proceeds brings (same.1 ▸ heeded) (same.1 ▸ sound)
  obtain ⟨talk, recorded, agreed⟩ := proceeds.fades fades
  rw [same.1] at agreed
  rw [same.2] at talk
  exact ⟨said, talk, recorded, agreed⟩

theorem Line.Drifting.proceeds {forwards accepts : Prop}
    (drifting : Drifting forwards accepts line line') (sound : Sound (line.ppp.state fsm) log) :
    ∃ said, Proceeds False fsm line line' log said :=
  drifting.stands.proceeds sound nofun

/-- The state of the server, and what was dealt in the negotiations of the session. -/
structure Exchange where
  st : State
  log : Fsm → List (Dealing Terms)

namespace PppEvent

/-- The automaton whose protocol a packet belongs to. -/
def automaton : PppEvent → Option Fsm
  | lcp .. => some .lcp
  | ipcp .. => some .ipcp
  | ipv6cp .. => some .ipv6cp
  | ccp .. => some .ccp
  | _ => none

/-- What a packet brings to the negotiation of an automaton: a packet whose length is
valid is a request, an acknowledgement or neither. CCP does not look at the length. -/
def dealings (fsm : Fsm) : PppEvent → List (Dealing Terms)
  | lcp _ memory l => if fsm = .lcp ∧ 4 ≤ l ∧ ntohs memory 2 ≤ l then
      dealingsIn memory (ntohs memory 2) else []
  | ipcp _ memory l => if fsm = .ipcp ∧ 4 ≤ l ∧ ntohs memory 2 ≤ l then
      dealingsIn memory (ntohs memory 2) else []
  | ipv6cp _ memory l => if fsm = .ipv6cp ∧ 4 ≤ l ∧ ntohs memory 2 ≤ l then
      dealingsIn memory (ntohs memory 2) else []
  | ccp _ memory l => if fsm = .ccp then dealingsIn memory l else []
  | _ => []

end PppEvent

/-- The exchange after an event: what came in, then what was said about it. -/
def Exchange.after (exchange : Exchange) (s : Nat) (event : PppEvent) : Exchange where
  st := event.after exchange.st s
  log fsm := exchange.log fsm ++ event.dealings fsm ++
    ((((event.after exchange.st s).line s).talk fsm).drop
      ((exchange.st.line s).talk fsm).length).map dealingOf

/-- The exchanges of session `s`, from when LCP is started. -/
def exchangeSystem (s : Nat) : TransitionSystem Exchange PppEvent where
  initial exchange := Connected s exchange.st ∧
    ∀ fsm, exchange.log fsm = ((exchange.st.line s).talk fsm).map dealingOf
  step exchange event next := event.Occurs exchange.st s ∧ next = exchange.after s event

/-- Every packet that is heard is heeded. -/
def Attentive (s : Nat) (exchange : Exchange) (event : PppEvent) : Prop :=
  ∀ heard ∈ event.heard exchange.st s, heard.Heeded (exchange.st.session s).ppp exchange.log

/-- What is heard is read from the packet in memory. -/
inductive Heard.Reads (fsm : Fsm) (memory : Memory) (l : Nat) : Heard → Prop where
  | ack (code : memory 0 = configAck) (named : Nat) :
      Reads fsm memory l (.ack fsm (readBytes memory 0 l) named)
  | request (code : memory 0 = configReq) :
      Reads fsm memory l (.request fsm (readBytes memory 0 l))
  | dropped (code : memory 0 = configReq) :
      Reads fsm memory l (.dropped fsm (readBytes memory 0 l))
  | aside {heard : Heard} (code : memory 0 ≠ configReq) (own : heard.Of fsm)
      (aside : ∀ other, heard.about other = false) : Reads fsm memory l heard

variable {memory : Memory} {l t s : Nat} {st : State} {heard : Heard}

theorem Heard.Reads.of (reads : heard.Reads fsm memory l) : heard.Of fsm := by
  cases reads with
  | aside _ own => exact own
  | _ => rfl

theorem Heard.Reads.brings (reads : heard.Reads fsm memory l) (other : Fsm) :
    heard.Brings other (if other = fsm then dealingsIn memory l else []) := by
  by_cases same : other = fsm
  · subst same
    rw [if_pos rfl]
    unfold dealingsIn
    cases reads with
    | ack code named =>
        rw [if_pos code]
        exact .ack ..
    | request code =>
        rw [if_neg (by rw [code]; decide), if_pos code]
        exact .request _
    | dropped code =>
        rw [if_neg (by rw [code]; decide), if_pos code]
        exact .dropped _
    | aside code _ aside =>
        rw [if_neg code]
        split
        · exact .unread (aside _) _
        · exact .nothing (aside _)
  · rw [if_neg same]
    apply Heard.Brings.nothing
    cases reads with
    | aside _ _ aside => exact aside other
    | _ => exact decide_eq_false fun equal => same equal.symm

theorem lcpHeard_reads (valid : 4 ≤ l ∧ ntohs memory 2 ≤ l) :
    (lcpHeard st s t memory l).Reads .lcp memory (ntohs memory 2) := by
  unfold lcpHeard
  dsimp only
  rw [if_neg (not_or.mpr ⟨Nat.not_lt.mpr valid.1, Nat.not_lt.mpr valid.2⟩)]
  split_ifs with request dropped dying ack refusal isOk terminate rejected
  · exact .dropped request
  · exact .request request
  · exact .aside request trivial fun _ => rfl
  · exact .ack ack _
  · exact .aside request rfl fun _ => rfl
  · exact .aside request trivial fun _ => rfl
  · exact .aside request rfl fun _ => rfl
  · exact .aside request rfl fun _ => rfl
  · exact .aside request trivial fun _ => rfl

theorem Ncp.heard_reads (ncp : Ncp) (option : Nat → Ncp.Request → Nat → Except State Ncp.Request) :
    (ncp.heard option st s t memory l).Reads ncp.fsm memory l := by
  unfold Ncp.heard
  dsimp only
  split_ifs with ack request drops terminate
  · exact .ack ack _
  · exact .dropped request
  · exact .request request
  · exact .aside request rfl fun _ => rfl
  · exact .aside request trivial fun _ => rfl

theorem ipcpHeard_reads (valid : 4 ≤ l ∧ ntohs memory 2 ≤ l) :
    (ipcpHeard st s t memory l).Reads .ipcp memory (ntohs memory 2) := by
  unfold ipcpHeard
  dsimp only
  rw [if_neg (not_or.mpr ⟨Nat.not_lt.mpr valid.1, Nat.not_lt.mpr valid.2⟩)]
  split_ifs with early request
  · exact .dropped request
  · exact .aside request trivial fun _ => rfl
  · exact ipcp.heard_reads _

theorem ipv6cpHeard_reads (valid : 4 ≤ l ∧ ntohs memory 2 ≤ l) :
    (ipv6cpHeard st s t memory l).Reads .ipv6cp memory (ntohs memory 2) := by
  unfold ipv6cpHeard
  dsimp only
  rw [if_neg (not_or.mpr ⟨Nat.not_lt.mpr valid.1, Nat.not_lt.mpr valid.2⟩)]
  split_ifs with early request
  · exact .dropped request
  · exact .aside request trivial fun _ => rfl
  · exact ipv6cp.heard_reads _

theorem ccpHeard_reads : (ccpHeard st s t memory l).Reads .ccp memory l := by
  unfold ccpHeard
  dsimp only
  split_ifs with early request ack request fits terminate
  · exact .dropped request
  · exact .aside request trivial fun _ => rfl
  · exact .ack ack _
  · exact .request request
  · exact .dropped request
  · exact .aside request rfl fun _ => rfl
  · exact .aside request trivial fun _ => rfl

theorem Heard.brings_valid {valid : Prop} [Decidable valid]
    (reads : valid → heard.Reads fsm memory l) (invalid : ¬ valid → heard = .other)
    (other : Fsm) :
    heard.Of fsm ∧
      heard.Brings other (if other = fsm ∧ valid then dealingsIn memory l else []) := by
  by_cases holds : valid
  · have read := reads holds
    simp only [holds, and_true]
    exact ⟨read.of, read.brings other⟩
  · rw [invalid holds, if_neg fun both => holds both.2]
    exact ⟨trivial, .nothing rfl⟩

theorem PppEvent.brings {event : PppEvent} (hears : event.heard st s = some heard) (other : Fsm) :
    heard.Brings other (event.dealings other) ∧
      ∀ fsm, event.automaton = some fsm → heard.Of fsm := by
  have apart {l hl : Nat} (invalid : ¬ (4 ≤ l ∧ hl ≤ l)) : l < 4 ∨ hl > l := by omega
  cases event with
  | lcp t memory l =>
      cases hears
      have valid := Heard.brings_valid (@lcpHeard_reads memory l t s st)
        (fun invalid => if_pos (apart invalid)) other
      exact ⟨valid.2, by rintro _ ⟨⟩; exact valid.1⟩
  | ipcp t memory l =>
      cases hears
      have valid := Heard.brings_valid (@ipcpHeard_reads memory l t s st)
        (fun invalid => if_pos (apart invalid)) other
      exact ⟨valid.2, by rintro _ ⟨⟩; exact valid.1⟩
  | ipv6cp t memory l =>
      cases hears
      have valid := Heard.brings_valid (@ipv6cpHeard_reads memory l t s st)
        (fun invalid => if_pos (apart invalid)) other
      exact ⟨valid.2, by rintro _ ⟨⟩; exact valid.1⟩
  | ccp t memory l =>
      cases hears
      have reads := @ccpHeard_reads memory l t s st
      exact ⟨reads.brings other, by rintro _ ⟨⟩; exact reads.of⟩
  | _ => cases hears

variable {exchange next : Exchange} {event : PppEvent}

/-- Every log is as the state of its automaton has it. -/
def Exchange.Sound (s : Nat) (exchange : Exchange) : Prop :=
  ∀ fsm, Server.Sound ((exchange.st.session s).ppp.state fsm) (exchange.log fsm)

theorem Exchange.Sound.proceeds (sound : exchange.Sound s) (attentive : Attentive s exchange event)
    (occurs : event.Occurs exchange.st s) (fsm : Fsm) :
    ∃ said, Proceeds (event.automaton = some fsm) fsm (exchange.st.line s)
      ((event.after exchange.st s).line s) (exchange.log fsm ++ event.dealings fsm) said := by
  have line := event.after_line occurs
  cases hears : event.heard exchange.st s with
  | none =>
      rw [hears] at line
      have silent : event.dealings fsm = [] ∧ event.automaton = none := by
        cases event with
        | lcp | ipcp | ipv6cp | ccp => cases hears
        | _ => exact ⟨rfl, rfl⟩
      rw [silent.1, List.append_nil, silent.2]
      obtain ⟨said, talk, recorded, _⟩ := line.proceeds (sound fsm)
      exact ⟨said, talk, recorded, nofun⟩
  | some heard =>
      rw [hears] at line
      have brings := PppEvent.brings hears fsm
      obtain ⟨said, talk, recorded, agreed⟩ :=
        line.proceeds brings.1 (attentive heard hears) (sound fsm)
      exact ⟨said, talk, recorded, fun own => agreed (brings.2 fsm own)⟩

theorem Exchange.after_log {own : Prop} {said : List (List UInt8)}
    (proceeds : Proceeds own fsm (exchange.st.line s) ((event.after exchange.st s).line s)
      (exchange.log fsm ++ event.dealings fsm) said) :
    (exchange.after s event).log fsm =
      exchange.log fsm ++ event.dealings fsm ++ said.map dealingOf := by
  unfold Exchange.after
  dsimp only
  rw [proceeds.talk, List.drop_left]

theorem sound_of_reachable (reached : (exchangeSystem s).ReachableUnder (Attentive s) exchange) :
    exchange.Sound s := by
  apply reached.invariant
  · rintro exchange ⟨connected, _⟩ fsm
    have ppp : (exchange.st.session s).ppp = { Ppp.incoming with lcp := .requestSent } :=
      connected.ppp.1
    rw [ppp]
    apply Sound.quiet
    cases fsm <;> rfl
  · rintro exchange event _ sound attentive ⟨occurs, rfl⟩ fsm
    obtain ⟨said, proceeds⟩ := Exchange.Sound.proceeds sound attentive occurs fsm
    rw [Exchange.after_log proceeds]
    exact proceeds.sound

/-- **Opened means agreed**: when a packet of its protocol brings an automaton up, our last
request was granted and the last request of the peer was acknowledged. -/
theorem opened_agreed (reached : (exchangeSystem s).ReachableUnder (Attentive s) exchange)
    (attentive : Attentive s exchange event) (steps : (exchangeSystem s).step exchange event next)
    (fsm : Fsm) (own : event.automaton = some fsm)
    (closed : (exchange.st.session s).ppp.state fsm ≠ .opened)
    (opened : (next.st.session s).ppp.state fsm = .opened) : Agreed (next.log fsm) := by
  obtain ⟨occurs, rfl⟩ := steps
  obtain ⟨said, proceeds⟩ := (sound_of_reachable reached).proceeds attentive occurs fsm
  rw [Exchange.after_log proceeds]
  exact proceeds.agreed own closed opened

/-- A call that has just been connected. -/
def calledExchange : Exchange where
  st := callState 1 1
  log fsm := (((callState 1 1).line 1).talk fsm).map dealingOf

/-- The peer asks for LCP without options. -/
def askedExchange : Exchange := calledExchange.after 1 askEvent

/-- The peer acknowledges the request that was sent. -/
def grantEvent : PppEvent :=
  .lcp 2 (packetOf [2, 1, 0, 18, 3, 4, 192, 35, 5, 6, 0, 0, 0, 7, 17, 4, 6, 78]) 18

theorem calledExchange_initial : (exchangeSystem 1).initial calledExchange :=
  ⟨callState_connected 1 1, fun _ => rfl⟩

theorem askedExchange_step : (exchangeSystem 1).step calledExchange askEvent askedExchange :=
  ⟨trivial, rfl⟩

theorem askedExchange_waits : (askedExchange.st.session 1).ppp.lcp = .ackSent := by
  decide

theorem askEvent_attentive : Attentive 1 calledExchange askEvent := by
  intro heard hears
  have request : askEvent.heard calledExchange.st 1 = some (.request .lcp [1, 1, 0, 4]) := by
    decide
  rw [request] at hears
  cases hears
  simp [Heard.Heeded]

theorem opened_agreed_called :
    Agreed ((askedExchange.after 1 grantEvent).log .lcp) := by
  have reached : (exchangeSystem 1).ReachableUnder (Attentive 1) askedExchange :=
    .step askEvent (.initial calledExchange_initial) askEvent_attentive askedExchange_step
  have steps : (exchangeSystem 1).step askedExchange grantEvent
      (askedExchange.after 1 grantEvent) := ⟨trivial, rfl⟩
  refine opened_agreed reached ?_ steps .lcp rfl ?_ (by decide)
  · intro heard hears
    have ack : grantEvent.heard askedExchange.st 1 = some (.ack .lcp
        [2, 1, 0, 18, 3, 4, 192, 35, 5, 6, 0, 0, 0, 7, 17, 4, 6, 78] authPap) := by
      decide +kernel
    rw [ack] at hears
    cases hears
    exact fun _ => by decide
  · rintro opened
    cases opened.symm.trans askedExchange_waits

/-- An acknowledgement of nothing that was asked for brings LCP up. -/
theorem opened_unagreed :
    ¬ ∀ exchange event next, (exchangeSystem 1).Reachable exchange →
      (exchangeSystem 1).step exchange event next → event.automaton = some .lcp →
        (exchange.st.session 1).ppp.lcp ≠ .opened → (next.st.session 1).ppp.lcp = .opened →
          Agreed (next.log .lcp) := by
  intro agrees
  have reached : (exchangeSystem 1).Reachable askedExchange :=
    .step askEvent (.initial calledExchange_initial) trivial askedExchange_step
  have agreed := agrees askedExchange ackEvent (askedExchange.after 1 ackEvent) reached
    ⟨trivial, rfl⟩ rfl (askedExchange_waits ▸ nofun) (by decide)
  have log : (askedExchange.after 1 ackEvent).log .lcp =
      [.asked [1, 0, 18, 3, 4, 192, 35, 5, 6, 0, 0, 0, 7, 17, 4, 6, 78], .heard [1, 0, 4],
        .acked [1, 0, 4], .granted [1, 0, 4]] := by
    decide
  obtain ⟨terms, granted, asked⟩ := agreed.granted.asked
  rw [log] at granted asked
  simp only [List.mem_cons, reduceCtorEq, Dealing.granted.injEq, Dealing.asked.injEq,
    List.not_mem_nil, or_false, false_or] at granted asked
  rw [granted] at asked
  cases asked

end L2tpns.Server
