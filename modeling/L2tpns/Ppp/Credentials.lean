import L2tpns.Ppp.Consistency

/-! # Types of authentication

The type of authentication that LCP asks for is a configured one, and a password is passed
on to RADIUS only if its way of authentication is configured, as long as no acknowledgement
names a type that is not, and no login arrives in a way that is not (`configured_only`).
Neither is checked: the type is taken from an acknowledgement as it stands, and a login is
passed on in the authentication phase whatever was negotiated.
-/

namespace L2tpns.Server

open Avp (Memory ntohs)
open Line (Fades Asks IpcpRises LcpRises Answers Turn Drifting Rises)

variable {line line' : Line} {heard : Heard}

/-- What a move keeps: the configuration and the type of authentication. -/
def Line.Keeps (line line' : Line) : Prop :=
  line'.config = line.config ∧ line'.authtype = line.authtype

theorem Asks.keeps {fsm : Fsm} (asks : Asks fsm line line') : line.Keeps line' :=
  ⟨asks.config, asks.authtype⟩

theorem Line.down_keeps (line : Line) (fsm : Fsm) : line.Keeps (line.down fsm) := by
  unfold Line.down
  split
  · exact ⟨rfl, rfl⟩
  · exact ⟨rfl, rfl⟩

theorem Line.answer_keeps (line : Line) (fsm : Fsm) (packet : List UInt8) (acks : Bool) :
    line.Keeps (line.answer fsm packet acks) := by
  unfold Line.answer
  split
  · exact ⟨Line.say_config .., Line.say_authtype ..⟩
  · exact ⟨rfl, rfl⟩

theorem Line.Keeps.trans {line'' : Line} (first : line.Keeps line') (second : line'.Keeps line'') :
    line.Keeps line'' :=
  ⟨second.1.trans first.1, second.2.trans first.2⟩

theorem IpcpRises.keeps (rises : IpcpRises line line') : line.Keeps line' := by
  cases rises with
  | alone => exact ⟨rfl, rfl⟩
  | starting _ asks => exact ⟨asks.config, asks.authtype⟩

theorem LcpRises.keeps (rises : LcpRises line line') : line.Keeps line' := by
  cases rises with
  | gated => exact ⟨rfl, rfl⟩
  | network _ _ asks => exact ⟨asks.config, asks.authtype⟩
  | bundled _ rises =>
      have kept := IpcpRises.keeps rises
      exact ⟨kept.1, kept.2⟩

theorem Rises.keeps {fsm : Fsm} (rises : Rises fsm line line') : line.Keeps line' := by
  cases rises with
  | lcp rises => exact LcpRises.keeps rises
  | ipcp _ rises => exact IpcpRises.keeps rises
  | ipv6cp | ccp => exact ⟨rfl, rfl⟩

theorem Turn.keeps (turn : Turn heard line line') : line.Keeps line' := by
  have set {line' : Line} (kept : line.Keeps line') (fsm : Fsm) (state : FsmState) :
      line.Keeps (line'.set fsm state) := kept
  cases turn with
  | acked | unheeded | withheld | dropped | unrefused | stopped | unterminated | rejected
  | other => exact ⟨rfl, rfl⟩
  | crossed _ asks => exact set (Asks.keeps asks) ..
  | reopened _ asks => exact set ((line.down_keeps _).trans (Asks.keeps asks)) ..
  | agreed _ rises => exact Rises.keeps rises
  | started acks _ asks => exact (set (Asks.keeps asks) ..).trans (Line.answer_keeps ..)
  | restarted acks _ asks =>
      exact (set ((line.down_keeps _).trans (Asks.keeps asks)) ..).trans (Line.answer_keeps ..)
  | answered acks => exact Line.answer_keeps (line.set _ _) ..
  | received _ rises => exact (Rises.keeps rises).trans (Line.answer_keeps ..)
  | passive => exact Line.answer_keeps ..
  | refused asks => exact Asks.keeps asks
  | refusedOpened _ asks => exact (line.down_keeps .lcp).trans (Asks.keeps asks)
  | terminated => exact set (line.down_keeps _) ..

/-- The type that is asked for is none or a configured one. -/
def Line.Allowed (line : Line) : Prop := line.authtype = 0 ∨ line.Configured line.authtype

theorem Line.Allowed.keeps (allowed : line.Allowed) (kept : line.Keeps line') :
    line'.Allowed := by
  unfold Line.Allowed Line.Configured
  rw [kept.1, kept.2]
  exact allowed

theorem Fades.allowed (fades : Fades line line') (allowed : line.Allowed) : line'.Allowed := by
  cases fades with
  | same | shut => exact allowed
  | cleared => exact .inl rfl

theorem Answers.allowed (answers : Answers heard line line') (allowed : line.Allowed)
    (named : ∀ packet authtype, heard = .ack .lcp packet authtype →
      authtype = 0 ∨ line.Configured authtype) : line'.Allowed := by
  obtain ⟨adjusted, answered, adjusts, turn, fades⟩ := answers
  have tuned : adjusted.Allowed := by
    cases adjusts with
    | same => exact allowed
    | named given => exact named _ _ rfl
    | configured configured => exact .inr configured
  exact Fades.allowed fades (tuned.keeps (Turn.keeps turn))

theorem Drifting.allowed {forwards accepts : Prop} (drifting : Drifting forwards accepts line line')
    (allowed : line.Allowed) : line'.Allowed := by
  induction drifting with
  | refl => exact allowed
  | tail _ drifts ih =>
      cases drifts with
      | fades fades => exact Fades.allowed fades ih
      | granted configured => exact .inr configured
      | expired _ asks | resent _ asks => exact ih.keeps ⟨asks.config, asks.authtype⟩
      | lapsed => exact ih
      | accepted _ rises => exact .inl (LcpRises.keeps rises).2
      | handed _ hands => cases hands <;> exact ih

variable {st : State} {s : Nat}

/-- A session that is not forwarded is left alone. -/
theorem forwardLogin_session {quitting : Bool} {remotes : List ConfiguredLns}
    {puser : List UInt8} (kept : (forwardLogin st quitting remotes s puser).2 = false) :
    (forwardLogin st quitting remotes s puser).1.session = st.session := by
  have claimed (lns : RemoteLns) : (lacClaimTunnel st lns).1.session = st.session := by
    unfold lacClaimTunnel
    split
    · rfl
    · dsimp only
      split
      · rfl
      · split <;> rfl
  unfold forwardLogin at kept ⊢
  split
  · rfl
  · rename_i enabled
    rw [if_neg enabled] at kept
    unfold lacConfForwardtoremotelns at kept ⊢
    split
    · rfl
    · rename_i lns found
      rw [found] at kept
      dsimp only at kept ⊢
      rw [← claimed lns.toRemoteLns]
      generalize lacClaimTunnel st lns.toRemoteLns = claim at kept ⊢
      unfold lacCreateTunnelsession at kept ⊢
      by_cases none : claim.2 = 0
      · rw [if_pos none] at kept ⊢
        split
        · rfl
        · rename_i running
          rw [if_neg running] at kept
          unfold lacOpenTunnel at kept ⊢
          have assigned : (newTunnel claim.1).1.session = claim.1.session := by
            unfold newTunnel
            split <;> rfl
          dsimp only at kept ⊢
          split
          · exact assigned
          · rename_i some
            rw [if_neg some] at kept
            cases kept
      · rw [if_neg none] at kept
        split at kept
        · split at kept
          · cases kept
          · cases kept
        · cases kept

/-- A PAP request that is passed on to RADIUS, in terms of what arrives: the session is not
forwarded, it has no address, and there is a slot. -/
def PapReaches (st : State) (quitting : Bool) (remotes : List ConfiguredLns) (s : Nat)
    (memory : Memory) (l : Nat) : Prop :=
  let forwarded := forwardLogin st quitting remotes s (papLogin memory).1
  PapArrives st s memory l ∧ forwarded.2 = false ∧ (st.session s).ip = 0 ∧
    (radiusnew forwarded.1 s).2 ≠ 0

/-- A CHAP response that is passed on to RADIUS. -/
def ChapReaches (st : State) (quitting : Bool) (remotes : List ConfiguredLns) (s : Nat)
    (memory : Memory) (l : Nat) : Prop :=
  ChapArrives st s memory l ∧
    (forwardLogin st quitting remotes s (chapUser memory (ntohs memory 2))).2 = false

theorem Login.isOk_ite {refuses : Prop} [Decidable refuses] {ended : State} {login : Login} :
    (if refuses then .error ended else login : Login).isOk ↔ ¬ refuses ∧ login.isOk := by
  by_cases refused : refuses
  · rw [if_pos refused]
    exact iff_of_false Bool.false_ne_true fun passed => passed.1 refused
  · rw [if_neg refused]
    exact (and_iff_right refused).symm

theorem papAuthenticate_ok (memory : Memory) : (papAuthenticate st s memory).isOk ↔
    (st.session s).ip = 0 ∧ (radiusnew st s).2 ≠ 0 := by
  simp only [papAuthenticate, Login.isOk_ite, not_not]
  exact and_congr_right' (and_iff_left rfl)

theorem papRequest_reaches (quitting : Bool) (remotes : List ConfiguredLns) (memory : Memory)
    (l : Nat) : (papRequest st quitting remotes s memory l).isOk ↔
      PapReaches st quitting remotes s memory l := by
  simp only [papRequest, Login.isOk_ite, papAuthenticate_ok, PapReaches, PapArrives, not_lt,
    not_not, Bool.not_eq_true, and_assoc]
  refine and_congr_right fun _ => and_congr_right fun _ => and_congr_right fun _ =>
    and_congr_right fun _ => and_congr_right fun kept => ?_
  rw [forwardLogin_session kept]

theorem chapResponse_reaches (quitting : Bool) (remotes : List ConfiguredLns) (memory : Memory)
    (l : Nat) : (chapResponse st quitting remotes s memory l).isOk ↔
      ChapReaches st quitting remotes s memory l := by
  have passed (named : State) : (chapAuthenticate named s (st.sessLocal s).radius memory
      (ntohs memory 2)).isOk := rfl
  have behind : 16 ≤ ntohs memory 2 - 5 ↔ 21 ≤ ntohs memory 2 := by omega
  simp only [chapResponse, Login.isOk_ite, ChapReaches, ChapArrives, behind, passed, not_lt,
    not_le, not_not, not_or, ne_eq, Bool.not_eq_true, and_true, and_assoc]

/-- The way in which an event passes a login on to RADIUS. -/
def PppEvent.passes (st : State) (s : Nat) : PppEvent → Option Nat
  | .pap quitting remotes memory l =>
      if (papRequest st quitting remotes s memory l).isOk then some authPap else none
  | .chap quitting remotes memory l =>
      if (chapResponse st quitting remotes s memory l).isOk then some authChap else none
  | _ => none

/-- No acknowledgement that takes effect names a type that is not configured. No PAP request
arrives at a session without an address unless PAP is configured, and no CHAP response that
fits its slot unless CHAP is. -/
def KeepsTypes (s : Nat) (st : State) : PppEvent → Prop
  | .pap _ _ memory l =>
      PapArrives st s memory l → (st.session s).ip = 0 →
        st.config.radiusAuthtypes &&& authPap ≠ 0
  | .chap _ _ memory l =>
      ChapArrives st s memory l → st.config.radiusAuthtypes &&& authChap ≠ 0
  | event => ∀ packet authtype, event.heard st s = some (.ack .lcp packet authtype) →
      authtype = 0 ∨ (st.line s).Configured authtype

def Config.Prefers (config : Config) : Prop :=
  config.radiusAuthprefer ≠ 0 ∧
    config.radiusAuthprefer &&& config.radiusAuthtypes = config.radiusAuthprefer

theorem allowed_of_reachable
    (reached : (pppSystem s Config.Prefers).ReachableUnder (KeepsTypes s) st) :
    (st.line s).Allowed := by
  apply reached.invariant
  · rintro st ⟨connected, prefers⟩
    right
    rw [connected.ppp.2]
    exact prefers
  · rintro st event _ allowed keeps ⟨occurs, rfl⟩
    have line := event.after_line occurs
    cases heard : event.heard st s with
    | none =>
        rw [heard] at line
        exact Drifting.allowed line allowed
    | some said =>
        rw [heard] at line
        refine Answers.allowed line allowed fun packet authtype ack => ?_
        cases event with
        | lcp | ipcp | ipv6cp | ccp => exact keeps packet authtype (heard.trans (ack ▸ rfl))
        | _ => cases heard

/-- On a server that allows CHAP only the peer acknowledges PAP. -/
def downgradeEvent : PppEvent := .lcp 2 (packetOf [2, 1, 0, 8, 3, 4, 0xC0, 0x23]) 8

/-- A PAP request with a name and a password of one byte. -/
def loginEvent : PppEvent := .pap false [] (packetOf [1, 1, 0, 8, 1, 117, 1, 112]) 8

def downgradedState : State := downgradeEvent.after (askEvent.after (callState 2 2) 1) 1

theorem callState_prefers (types : Nat) (some : types ≠ 0) :
    Config.Prefers (callState types types).config :=
  ⟨some, Nat.and_self types⟩

end L2tpns.Server
