import L2tpns.Ppp.Consistency

/-! # The authentication gate

As long as the user is not accepted, LCP asks for a type of authentication, so that it
leads to the authentication phase only. The network protocols stay down, and no packet is
passed on to the network (`authentication_gate`).
-/

namespace L2tpns.Server

open Line (Fades Asks IpcpRises LcpRises Answers Turn Drifting Rises)

variable {line line' : Line} {heard : Heard}

/-- Authentication is asked for, unless the record is cleared, and nothing above it is up. -/
structure Line.Gated (line : Line) : Prop where
  asked : line.authtype ≠ 0 ∨ line.ppp.lcp = .initial
  below : line.ppp.phase.code < Phase.network.code
  down : ∀ fsm, fsm ≠ .lcp → line.ppp.state fsm ≠ .opened

theorem Line.Gated.congr (gated : line.Gated) (ppp : line'.ppp = line.ppp)
    (authtype : line'.authtype = line.authtype) : line'.Gated where
  asked := by
    rw [ppp, authtype]
    exact gated.asked
  below := by
    rw [ppp]
    exact gated.below
  down := by
    rw [ppp]
    exact gated.down

theorem Line.Gated.set (gated : line.Gated) {fsm : Fsm} {state : FsmState}
    (below : state ≠ .opened) (live : fsm = .lcp → line.ppp.lcp ≠ .initial) :
    (line.set fsm state).Gated where
  asked := by
    rcases gated.asked with asked | initial
    · exact .inl asked
    · cases fsm with
      | lcp => exact absurd initial (live rfl)
      | ipcp | ipv6cp | ccp => exact .inr initial
  below := by
    rw [Line.set_ppp, Ppp.setState_phase]
    exact gated.below
  down other upper := by
    rw [Line.set_ppp]
    by_cases same : other = fsm
    · rw [same, Ppp.setState_same]
      exact below
    · rw [Ppp.setState_other _ _ same]
      exact gated.down other upper

theorem Line.Gated.asks (gated : line.Gated) {fsm : Fsm} (asks : Asks fsm line line') :
    line'.Gated :=
  gated.congr asks.ppp asks.authtype

theorem Line.Gated.answer (gated : line.Gated) (fsm : Fsm) (packet : List UInt8) (acks : Bool) :
    (line.answer fsm packet acks).Gated := by
  apply gated.congr (Line.answer_ppp ..)
  unfold Line.answer
  split
  · exact Line.say_authtype ..
  · rfl

theorem Line.Gated.downward (gated : line.Gated) (fsm : Fsm) : (line.down fsm).Gated := by
  unfold Line.down
  split
  · refine ⟨gated.asked, (by decide : Phase.establish.code < Phase.network.code),
      fun other upper => ?_⟩
    cases other with
    | lcp => exact absurd rfl upper
    | ipcp | ipv6cp | ccp => nofun
  · exact gated

theorem Line.Gated.adjust (gated : line.Gated) {authtype : Nat} (given : authtype ≠ 0) :
    (line.grant authtype).Gated :=
  ⟨.inl given, gated.below, gated.down⟩

theorem Fades.gated (fades : Fades line line') (gated : line.Gated) : line'.Gated := by
  have zero (fsm : Fsm) : Ppp.zero.state fsm ≠ .opened := by cases fsm <;> nofun
  have dead : Ppp.zero.phase.code < Phase.network.code := by decide
  cases fades with
  | same => exact gated
  | shut | cleared => exact ⟨.inr rfl, dead, fun fsm _ => zero fsm⟩

theorem Rises.gated {fsm : Fsm} (rises : Rises fsm line line') (gated : line.Gated)
    (live : line.ppp.state fsm ≠ .initial) : line'.Gated := by
  have runs (runs : Phase.network.code ≤ line.ppp.phase.code) : False :=
    absurd gated.below (Nat.not_lt_of_le runs)
  cases rises with
  | lcp rises =>
      have asked := gated.asked.resolve_right live
      cases rises with
      | gated =>
          refine ⟨.inl asked, (by decide : Phase.authenticate.code < Phase.network.code),
            fun fsm upper => ?_⟩
          have down := gated.down fsm upper
          cases fsm with
          | lcp => exact absurd rfl upper
          | ipcp | ipv6cp | ccp => exact down
      | network _ free | bundled free => exact absurd free asked
  | ipcp network | ipv6cp network | ccp network => exact (runs network).elim

theorem Line.Gated.reopen (gated : line.Gated) {fsm : Fsm} {state : FsmState}
    (opened : line.ppp.state fsm = .opened) (below : state ≠ .opened)
    (ppp : line'.ppp = (line.down fsm).ppp) (authtype : line'.authtype = (line.down fsm).authtype) :
    (line'.set fsm state).Gated := by
  have downward := (gated.downward fsm).congr ppp authtype
  apply downward.set below
  rintro rfl initial
  rw [ppp] at initial
  have up : line.ppp.lcp = .opened := opened
  have closed : line.ppp.lcp = .initial := initial
  rw [up] at closed
  cases closed

/-- A turn does not open the gate. -/
theorem Turn.gated (turn : Turn heard line line') (gated : line.Gated) : line'.Gated := by
  have live {fsm : Fsm} {state : FsmState} (own : line.ppp.state fsm = state)
      (up : state ≠ .initial) : fsm = .lcp → line.ppp.lcp ≠ .initial := by
    rintro rfl initial
    exact up (own.symm.trans initial)
  have asked {fsm : Fsm} {asked : Line} {next state : FsmState} (asks : Asks fsm line asked)
      (own : line.ppp.state fsm = state) (up : state ≠ .initial) (below : next ≠ .opened) :
      (asked.set fsm next).Gated := by
    apply (gated.asks asks).set below
    rw [asks.ppp]
    exact live own up
  cases turn with
  | acked state => exact gated.set nofun (live state nofun)
  | crossed state asks => exact asked asks state nofun nofun
  | reopened state asks => exact gated.reopen state nofun asks.ppp asks.authtype
  | agreed state rises => exact Rises.gated rises gated (state ▸ nofun)
  | unheeded | withheld | dropped | unrefused | unterminated | other => exact gated
  | started acks state asks =>
      exact (asked asks state nofun (FsmState.answered_below acks)).answer _ _ _
  | restarted acks state asks =>
      exact (gated.reopen state (FsmState.answered_below acks) asks.ppp asks.authtype).answer _ _ _
  | answered acks state =>
      refine (gated.set (FsmState.answered_below acks) ?_).answer _ _ _
      rcases state with sent | sent
      · exact live sent nofun
      · exact live sent nofun
  | received state rises => exact (Rises.gated rises gated (state ▸ nofun)).answer _ _ _
  | passive => exact gated.answer _ _ _
  | refused asks => exact gated.asks asks
  | refusedOpened state asks =>
      have downward := gated.downward .lcp
      exact downward.asks asks
  | terminated state => exact gated.reopen state nofun rfl rfl
  | stopped | rejected => exact gated.set nofun nofun

theorem Answers.gated (answers : Answers heard line line') (gated : line.Gated) :
    line'.Gated := by
  obtain ⟨adjusted, answered, adjusts, turn, fades⟩ := answers
  have still : adjusted.Gated := by
    cases adjusts with
    | same => exact gated
    | named given => exact gated.adjust given
    | configured configured => exact gated.adjust configured.1
  exact Fades.gated fades (Turn.gated turn still)

theorem Drifting.gated {forwards accepts : Prop} (drifting : Drifting forwards accepts line line')
    (kept : ¬ forwards) (refused : ¬ accepts) (gated : line.Gated) : line'.Gated := by
  induction drifting with
  | refl => exact gated
  | tail _ drifts ih =>
      cases drifts with
      | fades fades => exact Fades.gated fades ih
      | granted configured => exact ih.adjust configured.1
      | expired state asks =>
          refine (ih.asks asks).set nofun ?_
          rw [asks.ppp]
          rintro rfl initial
          rcases state with sent | received
          · exact nomatch initial.symm.trans sent
          · exact nomatch initial.symm.trans received
      | resent state asks =>
          refine (ih.asks asks).set nofun ?_
          rw [asks.ppp]
          rintro rfl initial
          exact nomatch initial.symm.trans state
      | lapsed passive =>
          refine ih.set nofun ?_
          rcases passive with rfl | rfl
          · nofun
          · nofun
      | accepted allowed => exact absurd allowed refused
      | handed allowed => exact absurd allowed kept

/-- The user is not accepted, and the session is not handed over to a remote LNS. -/
def Unaccepted (s : Nat) (st : State) (event : PppEvent) : Prop :=
  ¬ event.Accepts ∧ ¬ event.Forwards st s

/-- A type of authentication is preferred. -/
def Config.Asks (config : Config) : Prop := config.radiusAuthprefer ≠ 0

variable {st : State} {s : Nat}

theorem gated_of_reachable
    (reached : (pppSystem s Config.Asks).ReachableUnder (Unaccepted s) st) :
    (st.line s).Gated := by
  apply reached.invariant
  · rintro st ⟨connected, prefers⟩
    obtain ⟨ppp, authtype⟩ := connected.ppp
    refine ⟨.inl (authtype ▸ prefers), ?_, fun fsm upper => ?_⟩
    · rw [ppp]
      decide
    · rw [ppp]
      cases fsm with
      | lcp => exact absurd rfl upper
      | ipcp | ipv6cp | ccp => nofun
  · rintro st event _ gated ⟨refused, kept⟩ ⟨occurs, rfl⟩
    have line := event.after_line occurs
    cases heard : event.heard st s with
    | none =>
        rw [heard] at line
        exact Drifting.gated line kept refused gated
    | some said =>
        rw [heard] at line
        exact Answers.gated line gated

/-- **The authentication gate.** Before the user is accepted, the network phase is not
entered, the network protocols are not open, and no packet is passed on. -/
theorem authentication_gate
    (reached : (pppSystem s Config.Asks).ReachableUnder (Unaccepted s) st) :
    (st.session s).ppp.phase ≠ .network ∧ (st.session s).ppp.ipcp ≠ .opened ∧
      (st.session s).ppp.ipv6cp ≠ .opened ∧ ∀ (gateway : Gateway) (datagram : Datagram),
        gateway.st = st → ¬ gateway.Accepts s datagram := by
  have gated := gated_of_reachable reached
  have below : (st.session s).ppp.phase ≠ .network := by
    intro network
    have early : (st.session s).ppp.phase.code < Phase.network.code := gated.below
    rw [network] at early
    exact Nat.lt_irrefl _ early
  refine ⟨below, gated.down .ipcp nofun, gated.down .ipv6cp nofun, ?_⟩
  rintro gateway datagram rfl accepts
  exact below (Gateway.accepts_network accepts)

theorem callState_asks : Config.Asks (callState 1 1).config :=
  show (callState 1 1).config.radiusAuthprefer ≠ 0 by decide

theorem authentication_gate_opened :
    (openedState.session 1).ppp.lcp = .opened ∧ (openedState.session 1).ppp.phase ≠ .network :=
  ⟨by decide, (authentication_gate (.step ackEvent (.step askEvent
    (.initial ⟨callState_connected 1 1, callState_asks⟩) ⟨id, id⟩ ⟨trivial, rfl⟩) ⟨id, id⟩
    ⟨trivial, rfl⟩)).1⟩

end L2tpns.Server
