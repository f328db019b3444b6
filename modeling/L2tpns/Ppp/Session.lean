import L2tpns.Ppp.Timers
import L2tpns.Ppp.Turns
import Mathlib.Logic.Relation

/-! # The events of a session

Packets of the control protocols, the restart timers, logins, answers of the RADIUS
servers and shutdowns, and how the line of the session evolves with each of them
(`PppEvent.after_line`): a packet of an automaton is answered in a turn, and anything else
is a sequence of moves on which no packet has a part.
-/

namespace L2tpns.Server

open Avp (Memory ntohs readBytes)
open Foundation (TransitionSystem)
open Line (Fades Asks LcpRises Answers Turn)
open Relation (ReflTransGen)

namespace Line

/-- A move on which no packet of an automaton has a part. The line is handed over only if
`forwards` holds, and leaves the authentication phase for good only if `accepts` does. -/
inductive Drifts (forwards accepts : Prop) : Line → Line → Prop where
  | fades {line line' : Line} (fades : Fades line line') : Drifts forwards accepts line line'
  | granted {line : Line} {authtype : Nat} (configured : line.Configured authtype) :
      Drifts forwards accepts line (line.grant authtype)
  | expired {line asked : Line} {fsm : Fsm}
      (state : line.ppp.state fsm = .requestSent ∨ line.ppp.state fsm = .ackReceived)
      (asks : Asks fsm line asked) : Drifts forwards accepts line (asked.set fsm .requestSent)
  | resent {line asked : Line} {fsm : Fsm} (state : line.ppp.state fsm = .ackSent)
      (asks : Asks fsm line asked) : Drifts forwards accepts line (asked.set fsm .ackSent)
  | lapsed {line : Line} {fsm : Fsm} (passive : fsm = .ipv6cp ∨ fsm = .ccp) :
      Drifts forwards accepts line (line.set fsm .stopped)
  | accepted {line up : Line} (allowed : accepts) (rises : LcpRises (line.grant 0) up) :
      Drifts forwards accepts line up
  | handed {line line' : Line} (allowed : forwards) (hands : Hands line line') :
      Drifts forwards accepts line line'

/-- Any number of moves. -/
abbrev Drifting (forwards accepts : Prop) : Line → Line → Prop :=
  ReflTransGen (Drifts forwards accepts)

variable {forwards accepts : Prop} {line line' line'' : Line}

theorem Fades.drifting (fades : Fades line line') : Drifting forwards accepts line line' :=
  .single (.fades fades)

theorem Drifting.fade (drifting : Drifting forwards accepts line line')
    (fades : Fades line' line'') : Drifting forwards accepts line line'' :=
  drifting.tail (.fades fades)

end Line

open Line (Drifting)

variable {st : State} {s : Nat} {forwards accepts : Prop}

theorem resend_drifting {fsm : Fsm} {send : State → Nat → State} {giveUp : State → State}
    {next : FsmState} (asks : Asks fsm (st.line s) ((send st s).line s))
    (state : next = .requestSent ∧ ((st.line s).ppp.state fsm = .requestSent ∨
      (st.line s).ppp.state fsm = .ackReceived) ∨
      next = .ackSent ∧ (st.line s).ppp.state fsm = .ackSent)
    (gaveUp : Drifting forwards accepts (st.line s) ((giveUp st).line s)) :
    Drifting forwards accepts (st.line s) ((resend st s fsm send giveUp next).line s) := by
  unfold resend
  split
  · rw [changeState_line]
    rcases state with ⟨rfl, waiting⟩ | ⟨rfl, sent⟩
    · exact .single (.expired waiting asks)
    · exact .single (.resent sent asks)
  · exact gaveUp

theorem restartTimeout_drifting {fsm : Fsm} {send : State → Nat → State}
    {giveUp : State → State} (asks : Asks fsm (st.line s) ((send st s).line s))
    (gaveUp : Drifting forwards accepts (st.line s) ((giveUp st).line s)) :
    Drifting forwards accepts (st.line s) ((restartTimeout st s fsm send giveUp).line s) := by
  unfold restartTimeout
  split
  · split
    · rename_i sent
      exact resend_drifting asks (.inl ⟨rfl, .inl sent⟩) gaveUp
    · rename_i received
      exact resend_drifting asks (.inl ⟨rfl, .inr received⟩) gaveUp
    · rename_i sent
      exact resend_drifting asks (.inr ⟨rfl, sent⟩) gaveUp
    · exact .refl
  · exact .refl

theorem pppTimeouts_drifting :
    Drifting forwards accepts (st.line s) ((pppTimeouts st s).line s) := by
  have lcp (st : State) : Drifting forwards accepts (st.line s) ((lcpTimeout st s).line s) :=
    restartTimeout_drifting sendlcp_asks (sessionshutdown_fades ..).drifting
  have ipcp (st : State) : Drifting forwards accepts (st.line s) ((ipcpTimeout st s).line s) :=
    restartTimeout_drifting sendipcp_asks (sessionshutdown_fades ..).drifting
  have ipv6cp (st : State) :
      Drifting forwards accepts (st.line s) ((ipv6cpTimeout st s).line s) := by
    apply restartTimeout_drifting sendipv6cp_asks
    rw [changeState_line]
    exact .single (.lapsed (.inl rfl))
  have ccp (st : State) : Drifting forwards accepts (st.line s) ((ccpTimeout st s).line s) := by
    apply restartTimeout_drifting sendccp_asks
    rw [changeState_line]
    exact .single (.lapsed (.inr rfl))
  unfold pppTimeouts
  dsimp only
  split
  · exact .refl
  split
  · exact lcp st
  split
  · exact (lcp st).trans (ipcp _)
  · exact (((lcp st).trans (ipcp _)).trans (ipv6cp _)).trans (ccp _)

/-- The login of a user is forwarded, over a tunnel that is open. -/
def LoginForwards (st : State) (quitting : Bool) (remotes : List ConfiguredLns)
    (puser : List UInt8) : Prop :=
  st.config.disableLacFunc = false ∧
    ∃ lns, remotes.find? (fun lns => decide (lns.maskuser <:+: puser)) = some lns ∧
      LacOpens (lacClaimTunnel st lns.toRemoteLns).1 quitting
        (lacClaimTunnel st lns.toRemoteLns).2

theorem lacClaimTunnel_line (lns : RemoteLns) :
    (lacClaimTunnel st lns).1.line s = st.line s := by
  unfold lacClaimTunnel
  split
  · rfl
  · dsimp only
    split
    · rfl
    · split <;> rfl

theorem forwardLogin_line (quitting : Bool) (remotes : List ConfiguredLns)
    (puser : List UInt8) :
    Fades (st.line s) ((forwardLogin st quitting remotes s puser).1.line s) ∨
      LoginForwards st quitting remotes puser ∧
        (st.line s).Hands ((forwardLogin st quitting remotes s puser).1.line s) := by
  unfold forwardLogin
  split
  · exact .inl .same
  · rename_i enabled
    unfold lacConfForwardtoremotelns
    split
    · exact .inl .same
    · rename_i lns found
      have claimed := @lacClaimTunnel_line st s lns.toRemoteLns
      have created := @lacCreateTunnelsession_line (lacClaimTunnel st lns.toRemoteLns).1 s quitting
        (lacClaimTunnel st lns.toRemoteLns).2 lns.toRemoteLns puser
      rw [claimed] at created
      rcases created with fades | ⟨opens, hands⟩
      · exact .inl fades
      · exact .inr ⟨⟨Bool.eq_false_iff.mpr enabled, lns, found, opens⟩, hands⟩

theorem forwardLogin_drifting {arrives : Prop} {puser : List UInt8} (arrived : arrives) :
    Drifting (arrives ∧ LoginForwards st quitting remotes puser) accepts (st.line s)
      ((forwardLogin st quitting remotes s puser).1.line s) := by
  rcases @forwardLogin_line st s quitting remotes puser with fades | ⟨forwards, hands⟩
  · exact fades.drifting
  · exact .single (.handed ⟨arrived, forwards⟩ hands)

def Login.LineAfter (s : Nat) : Login → Line
  | .error ended => ended.line s
  | .ok (st, _) => st.line s

theorem Login.lineAfter_ok (st : State) (r : Nat) :
    Login.LineAfter s (.ok (st, r)) = st.line s := rfl

theorem Login.send_fades (login : Login) :
    Fades (login.LineAfter s) ((login.send s).line s) := by
  cases login with
  | error ended => exact .same
  | ok passed =>
      unfold Login.send sendLogin
      dsimp only
      split
      · exact radiussend_fades ..
      · exact radiussend_fades ..

variable (quitting : Bool) (r : Nat) (memory : Memory) (l : Nat)

theorem papRespond_fades : Fades (st.line s) ((papRespond st s memory).line s) := by
  have told (packet : List UInt8) : (st.emit (.ppp s pppPap packet)).line s = st.line s :=
    emit_line (Effect.quiet_proto (fun fsm => by cases fsm <;> decide) _ _)
  unfold papRespond
  split
  · exact .of_eq (told _)
  · refine Fades.trans (.of_eq (told _)) (sessionshutdown_fades ..)

theorem papAuthenticate_fades : Fades (st.line s) ((papAuthenticate st s memory).LineAfter s) := by
  have allocated : (radiusnew st s).1.line s = st.line s := radiusnew_line s
  unfold papAuthenticate
  split
  · exact papRespond_fades memory
  · dsimp only
    split
    · exact Fades.trans (.of_eq allocated) (papRespond_fades memory)
    · apply Fades.of_eq
      rw [Login.lineAfter_ok, setRadius_line, setSession_line rfl]
      exact allocated

/-- A PAP request that is well formed, in the authentication phase. -/
def PapArrives (st : State) (s : Nat) (memory : Memory) (l : Nat) : Prop :=
  4 ≤ l ∧ ntohs memory 2 ≤ l ∧ memory 0 = 1 ∧ (st.session s).ppp.phase = .authenticate

/-- A CHAP response that is well formed and fits the slot of the session, in the
authentication phase. -/
def ChapArrives (st : State) (s : Nat) (memory : Memory) (l : Nat) : Prop :=
  4 ≤ l ∧ ntohs memory 2 ≤ l ∧ memory 0 = 2 ∧ (st.session s).ppp.phase = .authenticate ∧
    (st.sessLocal s).radius ≠ 0 ∧
    (memory 1).toNat = (st.radius (st.sessLocal s).radius).id ∧
    5 ≤ ntohs memory 2 ∧ memory 4 = 16 ∧ 21 ≤ ntohs memory 2 ∧ ntohs memory 2 - 21 < maxUser

theorem processpap_drifting (remotes : List ConfiguredLns) (memory : Memory) (l : Nat) :
    Drifting (PapArrives st s memory l ∧
        LoginForwards st quitting remotes (papLogin memory).1) accepts (st.line s)
      ((processpap st quitting remotes s memory l).line s) := by
  apply Drifting.fade _ (Login.send_fades _)
  have close (reason : String) : Drifting (PapArrives st s memory l ∧
      LoginForwards st quitting remotes (papLogin memory).1) accepts (st.line s)
      ((sessionshutdown st s reason 3 0 (some .userError)).line s) :=
    (sessionshutdown_fades ..).drifting
  unfold papRequest
  dsimp only
  split
  · exact close _
  split
  · exact close _
  split
  · exact close _
  split
  · exact .refl
  · rename_i long fits code phase
    have arrives : PapArrives st s memory l :=
      ⟨Nat.le_of_not_lt long, Nat.le_of_not_lt fits, not_not.mp code, not_not.mp phase⟩
    split
    · exact forwardLogin_drifting arrives
    · exact (forwardLogin_drifting arrives).fade (papAuthenticate_fades memory)

theorem chapAuthenticate_fades :
    Fades (st.line s) ((chapAuthenticate st s r memory l).LineAfter s) := by
  apply Fades.of_eq
  unfold chapAuthenticate
  rw [Login.lineAfter_ok, setRadius_line]
  exact setSession_line rfl

theorem chapUnexpected_drifting :
    Drifting forwards accepts (st.line s) ((chapUnexpected st s).line s) := by
  unfold chapUnexpected
  split
  · rename_i asked
    apply Drifting.fade _ (sendchap_fades s)
    have tunes := @setAuthtype_tunes st s authChap (.inr rfl) asked.2
    change Drifting forwards accepts (st.line s) ((setAuthtype st s authChap).line s)
    rcases tunes with same | ⟨authtype, configured, granted⟩
    · rw [same]
    · rw [granted]
      exact .single (.granted configured)
  · exact .refl

theorem processchap_drifting (remotes : List ConfiguredLns) (memory : Memory) (l : Nat) :
    Drifting (ChapArrives st s memory l ∧
        LoginForwards st quitting remotes (chapUser memory (ntohs memory 2))) accepts (st.line s)
      ((processchap st quitting remotes s memory l).line s) := by
  apply Drifting.fade _ (Login.send_fades _)
  have close (reason : String) : Drifting (ChapArrives st s memory l ∧
      LoginForwards st quitting remotes (chapUser memory (ntohs memory 2))) accepts (st.line s)
      ((sessionshutdown st s reason 3 0 (some .userError)).line s) :=
    (sessionshutdown_fades ..).drifting
  unfold chapResponse
  dsimp only
  split
  · exact close _
  split
  · exact close _
  split
  · exact close _
  split
  · exact .refl
  split
  · exact chapUnexpected_drifting
  split
  · exact close _
  split
  · exact close _
  split
  · exact close _
  · rename_i long fits code phase slot id length user
    have arrives : ChapArrives st s memory l := by
      rw [not_or] at length user
      exact ⟨Nat.le_of_not_lt long, Nat.le_of_not_lt fits, not_not.mp code, not_not.mp phase,
        slot, not_not.mp id, Nat.le_of_not_lt length.1, not_not.mp length.2, by omega,
        Nat.lt_of_not_le user.2⟩
    split
    · exact forwardLogin_drifting arrives
    · exact (forwardLogin_drifting arrives).fade (chapAuthenticate_fades ..)

theorem setupNetwork_rises :
    ∃ up, LcpRises ((st.line s).grant 0) up ∧ Fades up ((setupNetwork st s).line s) := by
  have granted : (st.setLocal s fun own => { own with lcpAuthtype := 0 }).line s =
      (st.line s).grant 0 := setAuthtype_line 0
  obtain ⟨up, rises, fades⟩ :=
    @lcpOpen_rises (st.setLocal s fun own => { own with lcpAuthtype := 0 }) s
  rw [granted] at rises
  refine ⟨up, rises, fades.trans ?_⟩
  apply Fades.of_eq
  unfold setupNetwork
  dsimp only
  rw [emit_line fun _ => rfl, setSession_line rfl]
  split
  · rw [throttleSession_line, emit_line fun _ => rfl]
  · exact emit_line fun _ => rfl

theorem sessionsetup_drifting (allowed : accepts) (t : Nat) :
    Drifting forwards accepts (st.line s) ((sessionsetup st s t).line s) := by
  have bundled : Fades (st.line s) ((setupBundle st s).1.line s) := setupBundle_fades s
  have addressed : Fades (st.line s) ((setupAddress (setupBundle st s).1 s).1.line s) :=
    bundled.trans (setupAddress_fades s)
  unfold sessionsetup
  dsimp only
  split
  · split
    · generalize (setupAddress (setupBundle st s).1 s).1 = base at addressed ⊢
      have placed : Fades (st.line s)
          ((base.setSession s fun session => { session with tunnel := t }).line s) :=
        addressed.trans (.of_eq (setSession_line rfl))
      generalize base.setSession s (fun session => { session with tunnel := t }) = placed'
        at placed ⊢
      have routed : Fades (st.line s) ((setupRoutes (zapSessions placed' s
          (placed'.session s).ip 1 placed'.highestSessionid) s).line s) := by
        rw [setupRoutes_line]
        exact placed.trans (zapSessions_fades ..)
      obtain ⟨up, rises, fades⟩ := @setupNetwork_rises (setupRoutes (zapSessions placed' s
          (placed'.session s).ip 1 placed'.highestSessionid) s) s
      exact Line.Drifting.fade (routed.drifting.tail (.accepted allowed rises)) fades
    · exact addressed.drifting
  · exact bundled.drifting

theorem finishAccept_drifting (allowed : accepts) (r t : Nat) :
    Drifting forwards accepts (st.line s) ((finishAccept st r s t).line s) := by
  have told (proto : Nat) (other : proto = pppChap ∨ proto = pppPap) (packet : List UInt8) :
      (st.emit (.ppp s proto packet)).line s = st.line s := by
    apply emit_line
    apply Effect.quiet_proto
    rcases other with rfl | rfl
    · exact fun fsm => by cases fsm <;> decide
    · exact fun fsm => by cases fsm <;> decide
  unfold finishAccept
  dsimp only
  refine .trans ?_ (sessionsetup_drifting allowed t)
  apply (Fades.of_eq _).drifting
  rw [setSession_line rfl]
  apply told
  split
  · exact .inl rfl
  · exact .inr rfl

/-- An Access-Accept forwards the session to a remote LNS, over a tunnel that is open. -/
def AcceptForwards (st : State) (quitting : Bool) (s : Nat) (answer : RadAnswer) : Prop :=
  let accepted := answer.attributes.foldl (applyAttribute s) ⟨st, 0, 0, false⟩
  accepted.st.config.disableLacFunc = false ∧ accepted.opentunnelReq ∧ answer.assignmentId ∧
    ∃ lns, answer.remoteLns = some lns ∧
      LacOpens accepted.st quitting (lacRadTunnel accepted.st lns)

theorem clearForwarded_line : (clearForwarded st s r).1.line s = st.line s := by
  unfold clearForwarded
  dsimp only
  split
  · rw [setSession_line rfl, setSession_line rfl]
  · exact setSession_line rfl

theorem accessAccept_drifting (allowed : accepts) (quitting : Bool) (r : Nat)
    (answer : RadAnswer) :
    Drifting (AcceptForwards st quitting s answer) accepts (st.line s)
      ((accessAccept st quitting r s answer).1.line s) := by
  have applied := applyAttributes_fades (s := s) s answer.attributes ⟨st, 0, 0, false⟩
  unfold accessAccept AcceptForwards
  dsimp only at applied ⊢
  generalize answer.attributes.foldl (applyAttribute s) ⟨st, 0, 0, false⟩ = accepted at applied ⊢
  split
  · rename_i request
    split
    · exact applied.drifting
    · rename_i named
      rw [Bool.not_eq_true, Bool.not_eq_false] at named
      have forwarded : Drifting (accepted.st.config.disableLacFunc = false ∧
          accepted.opentunnelReq ∧ answer.assignmentId ∧ ∃ lns, answer.remoteLns = some lns ∧
            LacOpens accepted.st quitting (lacRadTunnel accepted.st lns)) accepts (st.line s)
          ((lacRadForwardtoremotelns accepted.st quitting s answer.remoteLns
            (accepted.st.session s).user).1.line s) := by
        apply applied.drifting.trans
        unfold lacRadForwardtoremotelns
        split
        · rename_i lns remote
          rcases @lacCreateTunnelsession_line accepted.st s quitting (lacRadTunnel accepted.st lns)
            lns (accepted.st.session s).user with fades | ⟨opens, hands⟩
          · exact fades.drifting
          · exact .single (.handed ⟨Bool.eq_false_iff.mpr request.1, request.2, named, lns, remote,
              opens⟩ hands)
        · exact .refl
      split
      · rw [clearForwarded_line]
        exact forwarded
      · exact forwarded.trans (finishAccept_drifting allowed ..)
  · exact applied.drifting.trans (finishAccept_drifting allowed ..)

theorem processrad_drifting (answer : RadAnswer) (owner : (st.radius answer.slot).session = s) :
    Drifting (AcceptForwards st quitting s answer) (answer.code = .accessAccept) (st.line s)
      ((processrad st quitting answer).line s) := by
  unfold processrad
  dsimp only
  rw [owner]
  split
  · exact .refl
  split
  · exact .refl
  split
  · exact .refl
  split
  · exact .refl
  · rw [radiusclear_line]
    split
    · exact .refl
    · split
      · rename_i accept
        exact accessAccept_drifting accept ..
      · exact (sessionkill_fades ..).drifting

theorem radiusretry_drifting :
    Drifting forwards accepts (st.line s) ((radiusretry st r).line s) := by
  unfold radiusretry
  dsimp only
  split
  · exact (sendchap_fades ..).drifting
  · exact (Fades.of_eq (radiusclear_line ..)).drifting
  · exact (Fades.of_eq (radiusclear_line ..)).drifting
  · exact (radiussend_fades ..).drifting

/-- What happens to session `s`. What happens beside does not change its line. -/
inductive PppEvent where
  | lcp (t : Nat) (memory : Memory) (l : Nat)
  | ipcp (t : Nat) (memory : Memory) (l : Nat)
  | ipv6cp (t : Nat) (memory : Memory) (l : Nat)
  | ccp (t : Nat) (memory : Memory) (l : Nat)
  | pap (quitting : Bool) (remotes : List ConfiguredLns) (memory : Memory) (l : Nat)
  | chap (quitting : Bool) (remotes : List ConfiguredLns) (memory : Memory) (l : Nat)
  | timeouts
  | radius (quitting : Bool) (answer : RadAnswer)
  | retry (r : Nat)
  | shutdown (i : Nat) (reason : String) (cdnResult cdnError : Nat) (termCause : Option TermCause)
  | kill (i : Nat) (reason : Option String) (termCause : Option TermCause)
  | beside (next : State)

namespace PppEvent

/-- The state after an event. -/
def after (st : State) (s : Nat) : PppEvent → State
  | lcp t memory l => processlcp st s t memory l
  | ipcp t memory l => processipcp st s t memory l
  | ipv6cp t memory l => processipv6cp st s t memory l
  | ccp t memory l => processccp st s t memory l
  | pap quitting remotes memory l => processpap st quitting remotes s memory l
  | chap quitting remotes memory l => processchap st quitting remotes s memory l
  | timeouts => pppTimeouts st s
  | radius quitting answer => processrad st quitting answer
  | retry r => radiusretry st r
  | shutdown i reason cdnResult cdnError termCause =>
      sessionshutdown st i reason cdnResult cdnError termCause
  | kill i reason termCause => sessionkill st i reason termCause
  | beside next => next

/-- An answer is for a request of the session. -/
def Occurs (st : State) (s : Nat) : PppEvent → Prop
  | radius _ answer => (st.radius answer.slot).session = s
  | beside next => next.line s = st.line s
  | _ => True

/-- What a packet says to the automata. -/
def heard (st : State) (s : Nat) : PppEvent → Option Heard
  | lcp t memory l => some (lcpHeard st s t memory l)
  | ipcp t memory l => some (ipcpHeard st s t memory l)
  | ipv6cp t memory l => some (ipv6cpHeard st s t memory l)
  | ccp t memory l => some (ccpHeard st s t memory l)
  | _ => none

/-- The session is handed over to a remote LNS. -/
def Forwards (st : State) (s : Nat) : PppEvent → Prop
  | pap quitting remotes memory l =>
      PapArrives st s memory l ∧ LoginForwards st quitting remotes (papLogin memory).1
  | chap quitting remotes memory l =>
      ChapArrives st s memory l ∧
        LoginForwards st quitting remotes (chapUser memory (ntohs memory 2))
  | radius quitting answer => AcceptForwards st quitting s answer
  | _ => False

def Accepts : PppEvent → Prop
  | radius _ answer => answer.code = .accessAccept
  | _ => False

/-- **A packet of an automaton is answered in a turn; anything else is a sequence of moves.** -/
theorem after_line (event : PppEvent) (occurs : event.Occurs st s) :
    match event.heard st s with
    | some heard => Answers heard (st.line s) ((event.after st s).line s)
    | none => Drifting (event.Forwards st s) event.Accepts (st.line s)
        ((event.after st s).line s) := by
  cases event with
  | lcp t memory l => exact processlcp_answers ..
  | ipcp t memory l => exact processipcp_answers ..
  | ipv6cp t memory l => exact processipv6cp_answers ..
  | ccp t memory l => exact processccp_answers ..
  | pap quitting remotes memory l => exact processpap_drifting ..
  | chap quitting remotes memory l => exact processchap_drifting ..
  | timeouts => exact pppTimeouts_drifting
  | radius quitting answer => exact processrad_drifting quitting answer occurs
  | retry r => exact radiusretry_drifting r
  | shutdown i reason cdnResult cdnError termCause => exact (sessionshutdown_fades ..).drifting
  | kill i reason termCause => exact (sessionkill_fades ..).drifting
  | beside next => exact (Fades.of_eq occurs).drifting

end PppEvent

/-- The case of an ICCN: LCP is started. -/
def iccn (st : State) (s magic flags : Nat) : State :=
  let known := st.setSession s fun session =>
    { session with
      magic := if magic = 0 then st.timeNow else magic
      flags := flags
      mru := if 0 < st.config.pppoeMru then st.config.pppoeMru else 1492 }
  let configured := known.setLocal s fun own =>
    { own with
      lcpAuthtype := st.config.radiusAuthprefer
      pppMru := st.config.mru
      mpMrru := 1614
      mpEpdis := st.config.localAddress.toNat }
  changeState (sendlcp configured s) s .lcp .requestSent

/-- The PPP state of a session whose call is not connected yet. -/
def Ppp.incoming : Ppp := { Ppp.zero with phase := .establish, lcp := .starting }

/-- LCP of session `s` has just been started: its call is connected, or it was opened over
PPPoE. -/
inductive Connected (s : Nat) : State → Prop where
  | iccn (st : State) (magic flags : Nat) (incoming : (st.session s).ppp = .incoming) :
      Connected s (iccn st s magic flags)
  | pppoe (st : State) (free : st.sessionfree = s) : Connected s (pppoeRecvPadr st)

/-- The first request is sent, with the preferred type of authentication. -/
theorem Connected.line (connected : Connected s st) :
    ∃ before asked : Line, before.ppp = .incoming ∧
      before.authtype = before.config.radiusAuthprefer ∧ Asks .lcp before asked ∧
      st.line s = asked.set .lcp .requestSent := by
  cases connected with
  | iccn st magic flags incoming =>
      let known := st.setSession s fun session =>
        { session with
          magic := if magic = 0 then st.timeNow else magic
          flags := flags
          mru := if 0 < st.config.pppoeMru then st.config.pppoeMru else 1492 }
      let configured := known.setLocal s fun own =>
        { own with
          lcpAuthtype := st.config.radiusAuthprefer
          pppMru := st.config.mru
          mpMrru := 1614
          mpEpdis := st.config.localAddress.toNat }
      have ppp : (configured.line s).ppp = .incoming :=
        (congrArg Line.ppp (setSession_line rfl : known.line s = st.line s)).trans incoming
      have authtype : (configured.line s).authtype = st.config.radiusAuthprefer :=
        congrArg SessLocal.lcpAuthtype (State.setLocal_same _)
      exact ⟨configured.line s, _, ppp, authtype, sendlcp_asks, changeState_line ..⟩
  | pppoe st free =>
      let created := openSession st s tunnelIdPppoe
      let known := created.setSession s fun session =>
        { session with lastData := st.timeNow, magic := st.timeNow, mru := 1492 }
      let configured := known.setLocal s fun own =>
        { own with
          lcpAuthtype := st.config.radiusAuthprefer
          pppMru := st.config.mru
          mpMrru := 1614
          mpEpdis := st.config.localAddress.toNat }
      have told : (configured.emit (.pads s)).line s = configured.line s :=
        emit_line fun _ => rfl
      have opened : (created.line s).ppp = .incoming := by
        rw [openSession_line, if_pos rfl]
        rfl
      have ppp : (configured.line s).ppp = .incoming :=
        (congrArg Line.ppp (setSession_line rfl : known.line s = created.line s)).trans opened
      have authtype : (configured.line s).authtype = st.config.radiusAuthprefer :=
        congrArg SessLocal.lcpAuthtype (State.setLocal_same _)
      refine ⟨(configured.emit (.pads s)).line s, _, told ▸ ppp, ?_, sendlcp_asks, ?_⟩
      · rw [told]
        exact authtype
      · unfold pppoeRecvPadr
        rw [free]
        exact changeState_line ..

theorem Connected.ppp (connected : Connected s st) :
    (st.line s).ppp = { Ppp.incoming with lcp := .requestSent } ∧
      (st.line s).authtype = st.config.radiusAuthprefer := by
  obtain ⟨before, asked, incoming, authtype, asks, same⟩ := connected.line
  have config : st.config = before.config := by
    rw [← asks.config]
    exact congrArg Line.config same
  rw [same, config, ← authtype]
  refine ⟨?_, asks.authtype⟩
  unfold Line.set
  rw [asks.ppp, incoming]
  rfl

/-- The events of session `s`, from when LCP is started, on a server with an admissible
configuration. -/
def pppSystem (s : Nat) (admissible : Config → Prop) : TransitionSystem State PppEvent where
  initial st := Connected s st ∧ admissible st.config
  step st event next := event.Occurs st s ∧ next = event.after st s

def packetOf (bytes : List UInt8) : Memory := fun k => bytes.getD k 0

/-- An open session whose call is connected now, on a server that allows these types of
authentication. -/
def callState (authtypes authprefer : Nat) : State :=
  let config := { Config.zero with
    radiusAuthtypes := authtypes
    radiusAuthprefer := authprefer
    pppRestartTime := 3
    pppMaxConfigure := 10
    pppMaxFailure := 5
    numradiusservers := 1
    radiussecret := [115] }
  let incoming := (State.start config (fun _ => .zero) 0 1000 100).setSession 1 fun session =>
    { session with opened := 100, tunnel := 2, ppp := .incoming }
  iccn incoming 1 7 0

theorem callState_connected (authtypes authprefer : Nat) :
    Connected 1 (callState authtypes authprefer) :=
  .iccn _ 7 0 rfl

end L2tpns.Server
