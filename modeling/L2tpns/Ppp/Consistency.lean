import L2tpns.Ppp.Session
import L2tpns.Server.Spoofing

/-! # Phase and automata

LCP is open exactly in the authentication and the network phase, and a network protocol
is open in the network phase only. Every turn keeps that, except that a refusal that is
heard while LCP is open leads back to the first phase and leaves LCP open, and so does the
hand-over of the session to a remote LNS. The result about runs is `phase_consistent`.
-/

namespace L2tpns.Server

open Line (Fades Asks IpcpRises LcpRises Answers Turn Drifting Rises)

/-- LCP is open in the phases above it only, and the network protocols in theirs. -/
structure Ppp.Consistent (ppp : Ppp) : Prop where
  lcp : ppp.lcp = .opened ↔ ppp.phase = .authenticate ∨ ppp.phase = .network
  ncp : ∀ fsm, fsm ≠ .lcp → ppp.state fsm = .opened → ppp.phase = .network

/-- The phase of termination is never entered. -/
structure Ppp.Settled (ppp : Ppp) : Prop extends ppp.Consistent where
  running : ppp.phase ≠ .terminate

@[simp] theorem Ppp.setState_phase (ppp : Ppp) (state : FsmState) (fsm : Fsm) :
    (ppp.setState state fsm).phase = ppp.phase := by
  cases fsm <;> rfl

@[simp] theorem Ppp.setState_same (ppp : Ppp) (state : FsmState) (fsm : Fsm) :
    (ppp.setState state fsm).state fsm = state := by
  cases fsm <;> rfl

theorem Ppp.setState_other (ppp : Ppp) (state : FsmState) {fsm other : Fsm}
    (foreign : other ≠ fsm) : (ppp.setState state fsm).state other = ppp.state other := by
  cases fsm <;> cases other <;> first | rfl | exact absurd rfl foreign

variable {ppp : Ppp} {line line' : Line} {heard : Heard}

theorem Ppp.Settled.set (settled : ppp.Settled) {state : FsmState} {fsm : Fsm}
    (below : state ≠ .opened) (closed : fsm = .lcp → ppp.lcp ≠ .opened) :
    (ppp.setState state fsm).Settled := by
  refine ⟨⟨?_, ?_⟩, (ppp.setState_phase state fsm).symm ▸ settled.running⟩
  · rw [ppp.setState_phase]
    cases fsm with
    | lcp => exact ⟨fun opened => absurd opened below, fun up => absurd (settled.lcp.mpr up)
        (closed rfl)⟩
    | ipcp | ipv6cp | ccp => exact settled.lcp
  · intro other upper opened
    rw [ppp.setState_phase]
    by_cases same : other = fsm
    · rw [same, ppp.setState_same] at opened
      exact absurd opened below
    · rw [ppp.setState_other state same] at opened
      exact settled.ncp other upper opened

theorem Line.restart_settled (line : Line) {state : FsmState} (below : state ≠ .opened) :
    (line.restart.ppp.setState state .lcp).Settled where
  lcp := ⟨fun opened => absurd opened below, fun up => up.elim nofun nofun⟩
  ncp fsm upper opened := by
    cases fsm with
    | lcp => exact absurd rfl upper
    | ipcp | ipv6cp | ccp => cases opened
  running := nofun

theorem Ppp.Settled.up (settled : ppp.Settled) {fsm : Fsm} (upper : fsm ≠ .lcp)
    (runs : Phase.network.code ≤ ppp.phase.code) : (ppp.setState .opened fsm).Settled := by
  have network : ppp.phase = .network := by
    cases phase : ppp.phase with
    | network => rfl
    | terminate => exact absurd phase settled.running
    | dead | establish | authenticate => rw [phase] at runs; exact absurd runs (by decide)
  refine ⟨⟨?_, fun _ _ _ => (ppp.setState_phase ..).trans network⟩, ?_⟩
  · rw [ppp.setState_phase]
    cases fsm with
    | lcp => exact absurd rfl upper
    | ipcp | ipv6cp | ccp => exact settled.lcp
  · rw [ppp.setState_phase]
    exact settled.running

theorem Ppp.zero_settled : Ppp.zero.Settled where
  lcp := ⟨nofun, fun up => up.elim nofun nofun⟩
  ncp fsm _ opened := by cases fsm <;> cases opened
  running := nofun

theorem Fades.settled (fades : Fades line line') (settled : line.ppp.Settled) :
    line'.ppp.Settled := by
  cases fades with
  | same => exact settled
  | shut | cleared => exact Ppp.zero_settled

theorem IpcpRises.settled (rises : IpcpRises line line') (settled : line.ppp.Settled)
    (runs : Phase.network.code ≤ line.ppp.phase.code) : line'.ppp.Settled := by
  have opened : (line.set .ipcp .opened).ppp.Settled := by
    rw [Line.set_ppp]
    exact settled.up nofun runs
  cases rises with
  | alone => exact opened
  | starting _ asks =>
      rw [Line.set_ppp, asks.ppp]
      exact opened.set nofun nofun

theorem LcpRises.settled (rises : LcpRises line line') (settled : line.ppp.Settled)
    (below : line.authtype = 0 ∨ line.ppp.lcp ≠ .opened) : line'.ppp.Settled := by
  have network : ((line.enter .network).set .lcp .opened).ppp.Settled :=
    ⟨⟨⟨fun _ => .inr rfl, fun _ => rfl⟩, fun _ _ _ => rfl⟩, nofun⟩
  cases rises with
  | gated asked =>
      have closed := below.resolve_left asked
      refine ⟨⟨⟨fun _ => .inl rfl, fun _ => rfl⟩, fun fsm upper opened => ?_⟩, nofun⟩
      have phase : line.ppp.phase = .network := by
        apply settled.ncp fsm upper
        cases fsm with
        | lcp => exact absurd rfl upper
        | ipcp | ipv6cp | ccp => exact opened
      exact absurd (settled.lcp.mpr (.inr phase)) closed
  | network ipv6 _ asks passive =>
      rw [Line.set_ppp, Line.set_ppp, Line.set_ppp, asks.ppp]
      have quiet : ipv6 ≠ .opened := by
        rcases passive with rfl | rfl
        · nofun
        · nofun
      have asked : (Ppp.setState _ .requestSent .ipcp).Settled := network.set nofun nofun
      have passed : (Ppp.setState _ ipv6 .ipv6cp).Settled := asked.set quiet nofun
      exact passed.set nofun nofun
  | bundled _ rises => exact IpcpRises.settled rises network (Nat.le_refl _)

theorem Rises.settled {fsm : Fsm} (rises : Rises fsm line line') (settled : line.ppp.Settled)
    (below : line.ppp.state fsm ≠ .opened) : line'.ppp.Settled := by
  cases rises with
  | lcp rises => exact LcpRises.settled rises settled (.inr below)
  | ipcp runs rises => exact IpcpRises.settled rises settled runs
  | ipv6cp runs | ccp runs =>
      rw [Line.set_ppp]
      exact settled.up nofun runs

theorem Line.down_settled {fsm : Fsm} {asked : Line} {state : FsmState} (below : state ≠ .opened)
    (ppp : asked.ppp = (line.down fsm).ppp) (settled : line.ppp.Settled) :
    (asked.set fsm state).ppp.Settled := by
  rw [Line.set_ppp, ppp]
  by_cases lcp : fsm = .lcp
  · subst lcp
    exact line.restart_settled below
  · unfold Line.down
    rw [if_neg lcp]
    exact settled.set below fun same => absurd same lcp

@[simp] theorem Line.answer_ppp (fsm : Fsm) (packet : List UInt8) (acks : Bool) :
    (line.answer fsm packet acks).ppp = line.ppp := by
  unfold Line.answer
  split
  · exact Line.say_ppp ..
  · rfl

theorem FsmState.answered_below (acks : Bool) : FsmState.answered acks ≠ .opened := by
  cases acks <;> nofun

/-- A turn keeps phase and automata consistent, unless it is a refusal while LCP is open. -/
theorem Turn.settled (turn : Turn heard line line') (settled : line.ppp.Settled)
    (unrefused : heard = .refusal → line.ppp.lcp ≠ .opened) : line'.ppp.Settled := by
  have closed {fsm : Fsm} {state : FsmState} (own : line.ppp.state fsm = state)
      (below : state ≠ .opened) : fsm = .lcp → line.ppp.lcp ≠ .opened := by
    rintro rfl opened
    exact below (own.symm.trans opened)
  cases turn with
  | acked state =>
      rw [Line.set_ppp]
      exact settled.set nofun (closed state nofun)
  | crossed state asks =>
      rw [Line.set_ppp, asks.ppp]
      exact settled.set nofun (closed state nofun)
  | reopened state asks => exact Line.down_settled nofun asks.ppp settled
  | agreed state rises => exact Rises.settled rises settled (state ▸ nofun)
  | unheeded | withheld | dropped | unrefused | unterminated | other => exact settled
  | started acks state asks =>
      rw [Line.answer_ppp]
      rw [Line.set_ppp, asks.ppp]
      exact settled.set (FsmState.answered_below acks) (closed state nofun)
  | restarted acks state asks =>
      rw [Line.answer_ppp]
      exact Line.down_settled (FsmState.answered_below acks) asks.ppp settled
  | answered acks state =>
      rw [Line.answer_ppp, Line.set_ppp]
      apply settled.set (FsmState.answered_below acks)
      rcases state with sent | sent
      · exact closed sent nofun
      · exact closed sent nofun
  | received state rises =>
      rw [Line.answer_ppp]
      exact Rises.settled rises settled (state ▸ nofun)
  | passive =>
      rw [Line.answer_ppp]
      exact settled
  | refused asks => exact asks.ppp ▸ settled
  | refusedOpened state => exact absurd state (unrefused rfl)
  | terminated => exact Line.down_settled nofun rfl settled
  | stopped | rejected =>
      rw [Line.set_ppp]
      exact settled.set nofun nofun

theorem Answers.settled (answers : Answers heard line line') (settled : line.ppp.Settled)
    (unrefused : heard = .refusal → line.ppp.lcp ≠ .opened) : line'.ppp.Settled := by
  obtain ⟨adjusted, answered, adjusts, turn, fades⟩ := answers
  have ppp : adjusted.ppp = line.ppp := by
    cases adjusts <;> rfl
  exact Fades.settled fades (Turn.settled turn (ppp ▸ settled) (ppp ▸ unrefused))

theorem Drifting.settled {forwards accepts : Prop} (drifting : Drifting forwards accepts line line')
    (kept : ¬ forwards) (settled : line.ppp.Settled) : line'.ppp.Settled := by
  induction drifting with
  | refl => exact settled
  | tail _ drifts ih =>
      cases drifts with
      | fades fades => exact Fades.settled fades ih
      | granted => exact ih
      | expired state asks =>
          rw [Line.set_ppp, asks.ppp]
          refine ih.set nofun ?_
          rintro rfl
          rcases state with sent | received
          · exact fun opened => nomatch opened.symm.trans sent
          · exact fun opened => nomatch opened.symm.trans received
      | resent state asks =>
          rw [Line.set_ppp, asks.ppp]
          refine ih.set nofun ?_
          rintro rfl
          exact fun opened => nomatch opened.symm.trans state
      | lapsed passive =>
          rw [Line.set_ppp]
          refine ih.set nofun ?_
          rcases passive with rfl | rfl
          · nofun
          · nofun
      | accepted _ rises => exact LcpRises.settled rises ih (.inl rfl)
      | handed allowed => exact absurd allowed kept

/-- No refusal is heard while LCP is open, unless it ends the session, and the session is
not handed over to a remote LNS. -/
def KeepsPhase (s : Nat) (st : State) (event : PppEvent) : Prop :=
  (event.heard st s = some .refusal → (st.session s).ppp.lcp ≠ .opened) ∧ ¬ event.Forwards st s

variable {st : State} {s : Nat}

theorem settled_of_reachable
    (reached : (pppSystem s fun _ => True).ReachableUnder (KeepsPhase s) st) :
    (st.session s).ppp.Settled := by
  apply reached.invariant
  · rintro st ⟨connected, _⟩
    have ppp : (st.session s).ppp = { Ppp.incoming with lcp := .requestSent } := connected.ppp.1
    rw [ppp]
    refine ⟨⟨⟨nofun, fun up => up.elim nofun nofun⟩, fun fsm _ opened => ?_⟩, nofun⟩
    cases fsm <;> cases opened
  · rintro st event _ settled ⟨unrefused, kept⟩ ⟨occurs, rfl⟩
    have line := event.after_line occurs
    cases heard : event.heard st s with
    | none =>
        rw [heard] at line
        exact Drifting.settled line kept settled
    | some said =>
        rw [heard] at line
        exact Answers.settled line settled fun refusal => unrefused (heard.trans (refusal ▸ rfl))

theorem Gateway.accepts_network {gateway : Gateway} {datagram : Datagram}
    (accepts : gateway.Accepts s datagram) : (gateway.st.session s).ppp.phase = .network := by
  by_contra other
  apply accepts
  cases datagram with
  | ipv4 p =>
      simp only [receive, processipin]
      split
      · rfl
      split
      · rfl
      · rw [if_pos (.inl other)]
  | ipv6 p =>
      simp only [receive, processipv6in]
      split
      · rfl
      · rw [if_pos (.inl other)]

/-- **Phase and automata are consistent**, and no packet is passed on to the network while
LCP is not open. -/
theorem phase_consistent (reached : (pppSystem s fun _ => True).ReachableUnder (KeepsPhase s) st) :
    (st.session s).ppp.Consistent ∧ ∀ (gateway : Gateway) (datagram : Datagram),
      gateway.st = st → gateway.Accepts s datagram → (st.session s).ppp.lcp = .opened := by
  have settled := settled_of_reachable reached
  refine ⟨settled.toConsistent, fun gateway datagram same accepts => ?_⟩
  subst same
  exact settled.lcp.mpr (.inr (Gateway.accepts_network accepts))

def askEvent : PppEvent := .lcp 2 (packetOf [1, 1, 0, 4]) 4

def ackEvent : PppEvent := .lcp 2 (packetOf [2, 1, 0, 4]) 4

def nakEvent : PppEvent := .lcp 2 (packetOf [3, 1, 0, 4]) 4

/-- The peer asks for LCP without options, and acknowledges our request. -/
def openedState : State := ackEvent.after (askEvent.after (callState 1 1) 1) 1

theorem openedState_reachable {guard : State → PppEvent → Prop}
    (asks : guard (callState 1 1) askEvent)
    (acks : guard (askEvent.after (callState 1 1) 1) ackEvent) :
    (pppSystem 1 fun _ => True).ReachableUnder guard openedState :=
  .step ackEvent (.step askEvent (.initial ⟨callState_connected 1 1, trivial⟩) asks ⟨trivial, rfl⟩)
    acks ⟨trivial, rfl⟩

theorem phase_consistent_opened :
    (openedState.session 1).ppp.lcp = .opened ∧ (openedState.session 1).ppp.Consistent := by
  refine ⟨by decide, (phase_consistent (openedState_reachable ?_ ?_)).1⟩
  · exact ⟨fun refusal => absurd refusal (by decide), id⟩
  · exact ⟨fun refusal => absurd refusal (by decide), id⟩

/-- A refusal that is heard while LCP is open leaves it open in the first phase. -/
theorem phase_inconsistent :
    ¬ ∀ st, (pppSystem 1 fun _ => True).Reachable st → (st.session 1).ppp.Consistent := by
  intro consistent
  have refused := consistent (nakEvent.after openedState 1)
    (.step nakEvent (openedState_reachable trivial trivial) trivial ⟨trivial, rfl⟩)
  have ppp : ((nakEvent.after openedState 1).session 1).ppp =
      ⟨.establish, .opened, .initial, .initial, .initial⟩ := by
    decide
  rw [ppp] at refused
  rcases refused.lcp.mp rfl with early | early
  · cases early
  · cases early

end L2tpns.Server
