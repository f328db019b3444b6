import L2tpns.Ppp.Lcp
import L2tpns.Ppp.Login
import L2tpns.Ppp.Network
import L2tpns.Server.SlotOwnership

/-! # The line of a session

What the PPP automata of one session can see: its phase and their states, the
authentication that is asked for, and what was sent in their negotiations. Most of the
server leaves the line of a session alone, or ends it by a shutdown or a kill
(`sessionshutdown_fades`, `sessionkill_fades`). The operations of the automata are
operations on the line.
-/

namespace L2tpns.Server

open Avp (Memory)

/-- The protocol of an automaton. -/
def Fsm.proto : Fsm → Nat
  | .lcp => pppLcp
  | .ipcp => pppIpcp
  | .ipv6cp => pppIpv6cp
  | .ccp => pppCcp

theorem Fsm.proto_injective : Function.Injective Fsm.proto := by
  intro first second same
  cases first <;> cases second <;> first | rfl | exact absurd same (by decide)

/-- A configuration request or its acknowledgement. -/
def negotiates (packet : List UInt8) : Bool :=
  packet.head? = some configReq || packet.head? = some configAck

/-- What an effect says to the peer of session `s` in the negotiation of an automaton. -/
def Effect.said (s : Nat) (fsm : Fsm) : Effect → Option (List UInt8)
  | .ppp session proto packet =>
      if session = s ∧ proto = fsm.proto ∧ negotiates packet then some packet else none
  | _ => none

/-- An effect that is no part of a negotiation of session `s`. -/
def Effect.Quiet (s : Nat) (effect : Effect) : Prop := ∀ fsm, effect.said s fsm = none

/-- What the automata of a session see. -/
structure Line where
  config : Config
  ppp : Ppp
  authtype : Nat
  talk : Fsm → List (List UInt8)

/-- The line of session `s`. -/
def State.line (st : State) (s : Nat) : Line where
  config := st.config
  ppp := (st.session s).ppp
  authtype := (st.sessLocal s).lcpAuthtype
  talk := fun fsm => st.sent.filterMap (Effect.said s fsm)

namespace Line

/-- Change the state of an automaton. -/
def set (line : Line) (fsm : Fsm) (state : FsmState) : Line :=
  { line with ppp := line.ppp.setState state fsm }

/-- Say something in a negotiation. -/
def say (line : Line) (fsm : Fsm) (packet : List UInt8) : Line :=
  if negotiates packet then
    { line with talk := Function.update line.talk fsm (line.talk fsm ++ [packet]) }
  else line

def enter (line : Line) (phase : Phase) : Line :=
  { line with ppp := { line.ppp with phase := phase } }

/-- Ask for a type of authentication. -/
def grant (line : Line) (authtype : Nat) : Line := { line with authtype := authtype }

/-- LCP negotiates again, and the network automata are down. -/
def restart (line : Line) : Line :=
  (((line.enter .establish).set .ipcp .initial).set .ipv6cp .initial).set .ccp .initial

/-- The PPP state is cleared. -/
def shut (line : Line) : Line := { line with ppp := .zero }

/-- The record of the session is cleared. -/
def cleared (line : Line) : Line := { line with ppp := .zero, authtype := 0 }

variable {line line' line'' : Line}

theorem say_quiet {packet : List UInt8} (quiet : negotiates packet = false) (fsm : Fsm) :
    line.say fsm packet = line := by
  unfold say
  rw [if_neg (Bool.eq_false_iff.mp quiet)]

@[simp] theorem set_ppp (fsm : Fsm) (state : FsmState) :
    (line.set fsm state).ppp = line.ppp.setState state fsm := rfl

@[simp] theorem say_ppp (fsm : Fsm) (packet : List UInt8) :
    (line.say fsm packet).ppp = line.ppp := by
  unfold say
  split <;> rfl

@[simp] theorem say_authtype (fsm : Fsm) (packet : List UInt8) :
    (line.say fsm packet).authtype = line.authtype := by
  unfold say
  split <;> rfl

@[simp] theorem say_config (fsm : Fsm) (packet : List UInt8) :
    (line.say fsm packet).config = line.config := by
  unfold say
  split <;> rfl

/-- The line is left alone, or it ends. -/
inductive Fades (line : Line) : Line → Prop where
  | same : Fades line line
  | shut : Fades line line.shut
  | cleared : Fades line line.cleared

theorem Fades.trans (first : Fades line line') (second : Fades line' line'') :
    Fades line line'' := by
  cases first with
  | same => exact second
  | shut =>
      cases second with
      | same | shut => exact .shut
      | cleared => exact .cleared
  | cleared =>
      cases second with
      | same | shut | cleared => exact .cleared

theorem Fades.of_eq (same : line' = line) : Fades line line' := same ▸ .same

theorem Fades.say (fades : Fades line line') (fsm : Fsm) (packet : List UInt8) :
    Fades (line.say fsm packet) (line'.say fsm packet) := by
  unfold Line.say
  by_cases heard : negotiates packet = true
  · rw [if_pos heard, if_pos heard]
    cases fades with
    | same => exact .same
    | shut => exact .shut
    | cleared => exact .cleared
  · rw [if_neg heard, if_neg heard]
    exact fades

end Line

open Line (Fades)

variable {st st' : State} {s : Nat}

theorem line_eq (config : st'.config = st.config)
    (ppp : (st'.session s).ppp = (st.session s).ppp)
    (authtype : (st'.sessLocal s).lcpAuthtype = (st.sessLocal s).lcpAuthtype)
    (sent : st'.sent = st.sent) : st'.line s = st.line s := by
  unfold State.line
  rw [config, ppp, authtype, sent]

theorem emit_line {effect : Effect} (quiet : effect.Quiet s) :
    (st.emit effect).line s = st.line s := by
  have silent (fsm : Fsm) : (st.emit effect).sent.filterMap (Effect.said s fsm) =
      st.sent.filterMap (Effect.said s fsm) := by
    change (st.sent ++ [effect]).filterMap _ = _
    simp [List.filterMap_append, quiet fsm]
  unfold State.line
  simp only [silent]
  rfl

theorem Effect.quiet_proto {proto : Nat} (other : ∀ fsm : Fsm, fsm.proto ≠ proto) (i : Nat)
    (packet : List UInt8) : (Effect.ppp i proto packet).Quiet s := by
  intro fsm
  exact if_neg fun said => other fsm said.2.1.symm

variable (fsm : Fsm) (r i b : Nat) (reason : String) (termCause : Option TermCause) (ip : InAddr)
  (add delRoutes : Bool) (cdnResult t : Nat)

theorem emit_say (packet : List UInt8) :
    (st.emit (.ppp s fsm.proto packet)).line s = (st.line s).say fsm packet := by
  unfold Line.say
  by_cases heard : negotiates packet = true
  · rw [if_pos heard]
    have talk : (fun other => (st.emit (.ppp s fsm.proto packet)).sent.filterMap
        (Effect.said s other)) =
        Function.update (st.line s).talk fsm ((st.line s).talk fsm ++ [packet]) := by
      funext other
      change (st.sent ++ [Effect.ppp s fsm.proto packet]).filterMap _ = _
      rw [List.filterMap_append]
      by_cases same : other = fsm
      · subst same
        simp [State.line, Effect.said, heard]
      · have foreign : fsm.proto ≠ other.proto := fun equal =>
          same (Fsm.proto_injective equal).symm
        simp [State.line, Effect.said, foreign, Function.update_of_ne same]
    unfold State.line at talk ⊢
    rw [talk]
    rfl
  · rw [if_neg heard]
    apply emit_line
    intro other
    exact if_neg fun said => heard said.2.2

theorem setSession_line {i : Nat} {change : Session → Session}
    (keeps : (change (st.session i)).ppp = (st.session i).ppp) :
    (st.setSession i change).line s = st.line s :=
  line_eq rfl (State.setSession_frame Session.ppp keeps s) rfl rfl

theorem setRadius_line (change : Radius → Radius) :
    (st.setRadius r change).line s = st.line s := rfl

theorem setBundle_line (change : Bundle → Bundle) :
    (st.setBundle b change).line s = st.line s := rfl

theorem setPool_line (change : IpPool → IpPool) :
    (st.setPool i change).line s = st.line s := rfl

theorem setLocal_line {i : Nat} {change : SessLocal → SessLocal}
    (keeps : (change (st.sessLocal i)).lcpAuthtype = (st.sessLocal i).lcpAuthtype) :
    (st.setLocal i change).line s = st.line s :=
  line_eq rfl rfl (State.setLocal_frame SessLocal.lcpAuthtype keeps s) rfl

theorem radiusclear_line : (radiusclear st r i).line s = st.line s := by
  change (if i = 0 then st else st.setLocal i fun own => { own with radius := 0 }).line s = _
  split
  · rfl
  · exact setLocal_line rfl

theorem radiusnew_line : (radiusnew st i).1.line s = st.line s := by
  have owned (next found : Nat) :
      (({ st with nextRadiusId := next } : State).setLocal i fun own =>
        { own with radius := found }).line s = st.line s :=
    setLocal_line rfl
  simp only [radiusnew]
  split
  · rfl
  · split
    · rfl
    · exact owned ..

theorem radiussendOr_fades {timeout : State → Nat → State}
    (fades : ∀ st i, Fades (State.line st s) ((timeout st i).line s)) (r : Nat)
    (request : RadiusState) :
    Fades (st.line s) ((radiussendOr timeout st r request).line s) := by
  apply radiussendOr_elim rfl (motive := fun st' => Fades (st.line s) (st'.line s))
  · exact .same
  · exact .of_eq (radiusclear_line ..)
  · exact fun _ _ => .same
  · exact fun change _ _ _ => fades (st.setRadius r change) _
  · exact fun change _ => .of_eq (radiusclear_line ..)
  · exact fun change _ => .of_eq (emit_line fun _ => rfl)
  · intro change _
    apply Fades.of_eq
    rw [setLocal_line rfl]
    exact emit_line fun _ => rfl

/-- A request that is not for authentication ends no session. -/
theorem radiussendOr_line {timeout : State → Nat → State} {request : RadiusState}
    (accounting : request.isAuth = false) :
    (radiussendOr timeout st r request).line s = st.line s := by
  apply radiussendOr_elim rfl (motive := fun st' => st'.line s = st.line s)
  · rfl
  · exact radiusclear_line ..
  · exact fun _ _ => rfl
  · intro _ _ _ auth
    rw [accounting] at auth
    cases auth
  · exact fun change _ => radiusclear_line ..
  · exact fun change _ => emit_line fun _ => rfl
  · intro change _
    rw [setLocal_line rfl]
    exact emit_line fun _ => rfl

theorem announceKill_line : (announceKill st i).line s = st.line s := by
  unfold announceKill
  split
  · rw [setSession_line rfl]
    exact emit_line fun _ => rfl
  · rfl

theorem markDying_line : (markDying st i).line s = st.line s := by
  unfold markDying
  split
  · exact setSession_line rfl
  · rfl

theorem saveCounters_line : (saveCounters st i).line s = st.line s := by
  unfold saveCounters
  split <;> rfl

theorem startStop_line : (startStop st i reason termCause).line s = st.line s := by
  have allocated : (radiusnew st i).1.line s = st.line s := radiusnew_line i
  unfold startStop
  dsimp only
  split
  · exact allocated
  · split
    · exact allocated
    · exact (radiussendOr_line _ rfl).trans allocated

theorem accountOnce_line (walledGarden : Bool) (reason : String) (termCause : Option TermCause) :
    (accountOnce st i walledGarden reason termCause).line s = st.line s := by
  unfold accountOnce
  split
  · rw [saveCounters_line, startStop_line]
  · rfl

theorem routeset_line (prefixlen : Nat) (add : Bool) :
    (routeset st i ip prefixlen add).line s = st.line s := by
  have routed (ip : InAddr) (prefixlen : Nat) : (st.emit (.route ip prefixlen add)).line s =
      st.line s := emit_line fun _ => rfl
  simp only [routeset]
  split
  · exact routed ..
  · exact routed ..

theorem routesetAll_line (routes : List Route) :
    (routesetAll st i add routes).line s = st.line s := by
  induction routes generalizing st with
  | nil => rfl
  | cons route rest ih => exact ih.trans (routeset_line ..)

theorem route6set_line (ip prefixlen : Nat) (add : Bool) :
    (route6set st i ip prefixlen add).line s = st.line s := by
  have routed : (st.emit (.route6 i ip prefixlen add)).line s = st.line s :=
    emit_line fun _ => rfl
  simp only [route6set]
  split
  · rfl
  · split
    · exact routed
    · exact routed

theorem route6setAll_line (routes : List Route6) :
    (routes.foldl (fun st route => route6set st i route.ipv6route route.ipv6prefixlen add)
      st).line s = st.line s := by
  induction routes generalizing st with
  | nil => rfl
  | cons route rest ih => exact ih.trans (route6set_line ..)

theorem freeIpAddress_line : (freeIpAddress st i).line s = st.line s := by
  have cleared (value : Int) : ((st.cacheIp (st.session i).ip value).setSession i fun session =>
      { session with ip := 0 }).line s = st.line s :=
    setSession_line rfl
  simp only [freeIpAddress]
  split
  · rfl
  · exact cleared _

theorem unroute_line : (unroute st i delRoutes).line s = st.line s := by
  have deleted : (if delRoutes then routesetAll st i false (st.session i).route else st).line s =
      st.line s := by
    split
    · exact routesetAll_line ..
    · rfl
  simp only [unroute]
  generalize (if delRoutes then routesetAll st i false (st.session i).route else st) = base
    at deleted ⊢
  have cleared : (base.setSession i fun session => { session with route := [] }).line s =
      st.line s := (setSession_line rfl).trans deleted
  split
  · rw [setSession_line rfl]
    split
    · exact (routeset_line ..).trans cleared
    · exact cleared
  · exact (freeIpAddress_line i).trans cleared

theorem unroute6_line : (unroute6 st i delRoutes).line s = st.line s := by
  unfold unroute6
  dsimp only
  split
  · split
    · rw [route6set_line, route6setAll_line, setSession_line rfl]
    · rw [route6setAll_line, setSession_line rfl]
  · exact setSession_line rfl

theorem takeOver_line : (takeOver st i).line s = st.line s := by
  have routed (routes : List Route6) (st : State) : (routes.foldl (fun st route =>
      st.cacheIp6 route.ipv6route route.ipv6prefixlen i) st).line s = st.line s := by
    induction routes generalizing st with
    | nil => rfl
    | cons route rest ih => exact ih _
  unfold takeOver
  dsimp only
  split
  · exact routed ..
  · exact routed ..

theorem leaveBundle_line : (leaveBundle st i b).line s = st.line s := by
  unfold leaveBundle
  split
  · rfl
  · dsimp only
    rw [emit_line fun _ => rfl]
    split
    · rfl
    · split
      · rfl
      · split
        · exact takeOver_line _
        · rfl

theorem dropRoutes_line (termCause : Option TermCause) :
    (dropRoutes st i b delRoutes termCause).line s = st.line s := by
  unfold dropRoutes
  split
  · rw [leaveBundle_line, unroute6_line, unroute_line]
  · rfl

theorem throttleSession_line (rateIn rateOut : Int) :
    (throttleSession st i rateIn rateOut).line s = st.line s := by
  unfold throttleSession
  split
  · rfl
  · rw [emit_line fun _ => rfl]
    exact setSession_line rfl

theorem sendCdn_line (cdnError : Nat) : (sendCdn st i cdnResult cdnError).line s = st.line s := by
  unfold sendCdn
  split
  · rfl
  · split <;> exact emit_line fun _ => rfl

theorem unuseFilter_line (filter : Nat) : (unuseFilter st filter).line s = st.line s := by
  unfold unuseFilter
  split <;> rfl

theorem finishShutdown_fades (cdnError : Nat) :
    Fades (st.line s) ((finishShutdown st i cdnResult cdnError).line s) := by
  have unthrottled : (unthrottle st i).line s = st.line s := by
    unfold unthrottle
    split
    · exact throttleSession_line ..
    · rfl
  have told := (sendCdn_line i cdnResult cdnError).trans unthrottled
  unfold finishShutdown
  dsimp only
  generalize sendCdn (unthrottle st i) i cdnResult cdnError = base at told ⊢
  have unfiltered := ((unuseFilter_line (base.session i).filterOut).trans
    (unuseFilter_line (base.session i).filterIn)).trans told
  generalize unuseFilter (unuseFilter base (base.session i).filterIn)
    (base.session i).filterOut = last at unfiltered ⊢
  rw [emit_line fun _ => rfl, ← unfiltered]
  unfold clearPpp
  rw [setLocal_line rfl]
  by_cases same : s = i
  · subst same
    have shut : (last.setSession s fun session => { session with ppp := .zero }).line s =
        (last.line s).shut := by
      unfold State.line
      rw [State.setSession_same]
      rfl
    rw [shut]
    exact .shut
  · apply Fades.of_eq
    exact line_eq rfl (congrArg Session.ppp (State.setSession_other same _)) rfl rfl

theorem sessionshutdown_fades (cdnError : Nat) (termCause : Option TermCause) :
    Fades (st.line s) ((sessionshutdown st i reason cdnResult cdnError termCause).line s) := by
  unfold sessionshutdown
  dsimp only
  split
  · exact .same
  · have dropped (walledGarden delRoutes : Bool) (b : Nat) :
        (dropRoutes (markDying (accountOnce (announceKill st i) i walledGarden reason termCause)
          i) i b delRoutes termCause).line s = st.line s := by
      rw [dropRoutes_line, markDying_line, accountOnce_line, announceKill_line]
    rw [← dropped]
    exact finishShutdown_fades ..

theorem radiussend_fades (request : RadiusState) :
    Fades (st.line s) ((radiussend st r request).line s) :=
  radiussendOr_fades (fun _ _ => sessionshutdown_fades ..) r request

theorem sessionclear_fades : Fades (st.line s) ((sessionclear st i).line s) := by
  unfold sessionclear
  dsimp only
  rw [setSession_line rfl, setSession_line rfl]
  by_cases same : s = i
  · subst same
    have cleared : ((st.setSession s fun _ => .zero).setLocal s fun _ => .zero).line s =
        (st.line s).cleared := by
      unfold State.line
      rw [State.setLocal_same, State.setLocal_session, State.setSession_same]
      rfl
    rw [cleared]
    exact .cleared
  · apply Fades.of_eq
    apply line_eq
    · rfl
    · rw [State.setLocal_session, State.setSession_other same]
    · rw [State.setLocal_other same]
      rfl
    · rfl

theorem sessionkill_fades (reason : Option String) (termCause : Option TermCause) :
    Fades (st.line s) ((sessionkill st i reason termCause).line s) := by
  have ended : Fades (st.line s) ((shutForKill st i reason termCause).line s) := by
    unfold shutForKill
    split
    · exact sessionshutdown_fades ..
    · exact .same
  have released : Fades (st.line s)
      ((releaseSlot (shutForKill st i reason termCause) i).line s) := by
    unfold releaseSlot
    split
    · exact ended
    · exact ended.trans (.of_eq (radiusclear_line ..))
  have linked : Fades (st.line s)
      ((shutLinked (releaseSlot (shutForKill st i reason termCause) i) i reason).line s) := by
    unfold shutLinked
    dsimp only
    split
    · exact released.trans (sessionshutdown_fades ..)
    · exact released
  unfold sessionkill
  split
  · exact .same
  · split
    · exact .same
    · dsimp only
      rw [emit_line fun _ => rfl]
      exact linked.trans (sessionclear_fades ..)

theorem useFilter_line (filter : Nat) : (useFilter st filter).line s = st.line s := by
  unfold useFilter
  split <;> rfl

theorem applyAttribute_fades (accepting : Accepting) (item : RadAttribute) :
    Fades (accepting.st.line s) ((applyAttribute i accepting item).st.line s) := by
  unfold applyAttribute
  cases item with
  | framedIp ip | dns1 ip | dns2 ip | framedIpv6Address ip
  | walledGarden => exact .of_eq (setSession_line rfl)
  | framedRoute ip prefixlen | framedIpv6Route route prefixlen =>
      dsimp only
      split
      · exact .same
      · exact .of_eq (setSession_line rfl)
  | filterId side name =>
      dsimp only
      cases findFilter accepting.st name with
      | none => exact .same
      | some f =>
          apply Fades.of_eq
          dsimp only
          rw [useFilter_line]
          cases side with
          | inbound | outbound => exact setSession_line rfl
  | sessionTimeout seconds =>
      have timed : (accepting.st.setSession i fun session =>
          { session with sessionTimeout := seconds }).line s = accepting.st.line s :=
        setSession_line rfl
      dsimp only
      split
      · rw [← timed]
        exact sessionshutdown_fades ..
      · exact .of_eq timed
  | tunnelType | other => exact .same

theorem applyAttributes_fades (items : List RadAttribute) (accepting : Accepting) :
    Fades (accepting.st.line s) ((items.foldl (applyAttribute i) accepting).st.line s) := by
  induction items generalizing accepting with
  | nil => exact .same
  | cons item rest ih => exact (applyAttribute_fades i accepting item).trans (ih _)

theorem joinBundle_line : (joinBundle st i).1.line s = st.line s := by
  have opened : (newBundle st).1.line s = st.line s := by
    unfold newBundle
    split <;> rfl
  unfold joinBundle
  dsimp only
  split
  · split
    · rfl
    · rw [setBundle_line]
      exact setSession_line rfl
  · split
    · exact opened
    · rw [setBundle_line, setSession_line rfl]
      exact opened

theorem setupBundle_fades : Fades (st.line s) ((setupBundle st i).1.line s) := by
  have joined : (joinBundle st i).1.line s = st.line s := joinBundle_line i
  unfold setupBundle
  split
  · dsimp only
    split
    · apply Fades.of_eq
      rw [emit_line fun _ => rfl]
      exact joined
    · rw [← joined]
      exact sessionshutdown_fades ..
  · exact .same

theorem assignIpAddress_line : (assignIpAddress st i).line s = st.line s := by
  unfold assignIpAddress
  dsimp only
  split
  · rfl
  · rw [setPool_line]
    exact setSession_line rfl

theorem setupAddress_fades : Fades (st.line s) ((setupAddress st i).1.line s) := by
  have assigned : (assignIpAddress st i).line s = st.line s := assignIpAddress_line i
  unfold setupAddress
  split
  · dsimp only
    split
    · rw [← assigned]
      exact sessionshutdown_fades ..
    · exact .of_eq assigned
  · exact .same

theorem zapSession_fades (j : Nat) : Fades (st.line s) ((zapSession st i ip j).line s) := by
  unfold zapSession
  dsimp only
  split_ifs
  · exact .same
  · exact sessionkill_fades ..
  · exact .same
  · exact sessionkill_fades ..
  · exact .same
  · exact .same
  · exact .same
  · exact sessionshutdown_fades ..
  · exact .same

theorem zapSessions_fades (j count : Nat) :
    Fades (st.line s) ((zapSessions st i ip j count).line s) := by
  induction count generalizing st j with
  | zero => exact .same
  | succ count ih =>
      unfold zapSessions
      split
      · exact ih _
      · split
        · exact .same
        · exact (zapSession_fades ..).trans (ih _)

theorem setupRoutes_line : (setupRoutes st i).line s = st.line s := by
  unfold setupRoutes
  dsimp only
  split
  · split
    · split
      · exact routesetAll_line ..
      · exact (routeset_line ..).trans (routesetAll_line ..)
    · exact routesetAll_line i true (st.session i).route
  · rfl

theorem tunnelclear_line : (tunnelclear st t).line s = st.line s := by
  unfold tunnelclear
  split <;> rfl

theorem killSessions_fades (reason : Option String) (i count : Nat) :
    Fades (st.line s) ((killSessions st t reason i count).line s) := by
  induction count generalizing st i with
  | zero => exact .same
  | succ count ih =>
      unfold killSessions
      dsimp only
      split
      · exact (sessionkill_fades ..).trans (ih _)
      · exact ih _

theorem shutSessions_fades (reason : String) (i count : Nat) :
    Fades (st.line s) ((shutSessions st t reason i count).line s) := by
  induction count generalizing st i with
  | zero => exact .same
  | succ count ih =>
      unfold shutSessions
      dsimp only
      split
      · exact (sessionshutdown_fades ..).trans (ih _)
      · exact ih _

theorem tunnelshutdown_fades (reason : String) (result : Nat) :
    Fades (st.line s) ((tunnelshutdown st t reason result).line s) := by
  unfold tunnelshutdown
  split
  · unfold tunnelkill
    dsimp only
    rw [emit_line fun _ => rfl, tunnelclear_line]
    change Fades ((st.setTunnel t fun tunnel => { tunnel with state := .die }).line s) _
    exact killSessions_fades ..
  · dsimp only
    split
    · rw [emit_line fun _ => rfl]
      exact shutSessions_fades ..
    · rw [emit_line fun _ => rfl, emit_line fun _ => rfl]
      exact shutSessions_fades ..

theorem lacOpenTunnel_line (lns : RemoteLns) : (lacOpenTunnel st lns).1.line s = st.line s := by
  have assigned : (newTunnel st).1.line s = st.line s := by
    unfold newTunnel
    split <;> rfl
  unfold lacOpenTunnel
  dsimp only
  split
  · exact assigned
  · rw [emit_line fun _ => rfl]
    exact (tunnelclear_line _).trans assigned

/-- Whether a session is opened on tunnel `t` for a session that is forwarded. -/
def LacOpens (st : State) (quitting : Bool) (t : Nat) : Prop :=
  t ≠ 0 ∧ (st.tunnel t).state = .opened ∧ quitting = false

/-- The line of a session that is handed over to a remote LNS, or whose record is used for
the session there. -/
inductive Line.Hands (line : Line) : Line → Prop where
  | handed : Hands line (line.enter .establish)
  | reused : Hands line { line with ppp := { Ppp.zero with phase := .establish, lcp := .starting } }

theorem openSession_line (i t : Nat) : (openSession st i t).line s = if s = i then
    { st.line s with ppp := { Ppp.zero with phase := .establish, lcp := .starting } }
    else st.line s := by
  have session := congrFun (openSession_session st i t) s
  by_cases same : s = i
  · subst same
    rw [if_pos rfl]
    rw [Function.update_self] at session
    unfold State.line
    rw [session]
    rfl
  · rw [if_neg same]
    rw [Function.update_of_ne same] at session
    have unlinked : ((st.setSession 0 fun head =>
        { head with next := (st.session i).next }).session s).ppp = (st.session s).ppp :=
      State.setSession_frame Session.ppp rfl s
    refine line_eq rfl ?_ rfl rfl
    rw [session]
    exact unlinked

theorem lacOpenSession_hands (puser : List UInt8) :
    (st.line s).Hands ((lacOpenSession st t s puser).line s) := by
  have opened := @openSession_line st s st.sessionfree t
  unfold lacOpenSession
  dsimp only
  rw [setSession_line rfl, setSession_line rfl, emit_line fun _ => rfl]
  generalize openSession st st.sessionfree t = created at opened ⊢
  have touched : (created.setSession s fun session =>
      { session with lastData := st.timeNow, ppp := { session.ppp with phase := .establish } }).line
        s = (created.line s).enter .establish := by
    unfold State.line
    rw [State.setSession_same]
    rfl
  rw [touched, opened]
  by_cases same : s = st.sessionfree
  · rw [if_pos same]
    exact .reused
  · rw [if_neg same]
    exact .handed

/-- Forwarding ends the line or hands it over. -/
theorem lacCreateTunnelsession_line (quitting : Bool) (t : Nat) (lns : RemoteLns)
    (puser : List UInt8) :
    Fades (st.line s) ((lacCreateTunnelsession st quitting t s lns puser).1.line s) ∨
      LacOpens st quitting t ∧
        (st.line s).Hands ((lacCreateTunnelsession st quitting t s lns puser).1.line s) := by
  unfold lacCreateTunnelsession
  by_cases none : t = 0
  · rw [if_pos none]
    split
    · exact .inl .same
    · exact .inl (.of_eq (lacOpenTunnel_line lns))
  · rw [if_neg none]
    by_cases opened : (st.tunnel t).state = .opened
    · rw [if_pos opened]
      cases quitting with
      | true => exact .inl (tunnelshutdown_fades ..)
      | false => exact .inr ⟨⟨none, opened, rfl⟩, lacOpenSession_hands ..⟩
    · rw [if_neg opened]
      exact .inl .same

theorem setTimer_line (timer : SessLocal → Restart) (fsm : Fsm) :
    (st.setLocal s fun own => own.setTimer (timer own) fsm).line s = st.line s := by
  apply setLocal_line
  cases fsm <;> rfl

@[simp] theorem initialiseRestartCount_line (fsm : Fsm) :
    (initialiseRestartCount st s fsm).line s = st.line s :=
  setTimer_line _ fsm

@[simp] theorem zeroRestartCount_line (fsm : Fsm) :
    (zeroRestartCount st s fsm).line s = st.line s :=
  setTimer_line _ fsm

@[simp] theorem restartTimer_line (fsm : Fsm) : (restartTimer st s fsm).line s = st.line s :=
  setTimer_line _ fsm

theorem Ppp.setState_state (ppp : Ppp) (fsm : Fsm) : ppp.setState (ppp.state fsm) fsm = ppp := by
  cases fsm <;> rfl

@[simp] theorem changeState_line (fsm : Fsm) (new : FsmState) :
    (changeState st s fsm new).line s = (st.line s).set fsm new := by
  unfold changeState
  by_cases same : (st.session s).ppp.state fsm = new
  · rw [if_pos same, ← same]
    unfold Line.set State.line
    rw [Ppp.setState_state]
  · rw [if_neg same, emit_line fun _ => rfl]
    have stopped : (if new.isQuiet then st.setLocal s fun own => own.setTimer ⟨0, 0, 0⟩ fsm
        else st).line s = st.line s := by
      split
      · exact setTimer_line _ fsm
      · rfl
    rw [← stopped]
    generalize (if new.isQuiet then st.setLocal s fun own => own.setTimer ⟨0, 0, 0⟩ fsm
      else st) = timed
    unfold State.line
    rw [State.setSession_same]
    rfl

theorem enter_line (phase : Phase) : (st.setSession s fun session =>
    { session with ppp := { session.ppp with phase := phase } }).line s =
      (st.line s).enter phase := by
  unfold State.line
  rw [State.setSession_same]
  rfl

theorem setAuthtype_line (authtype : Nat) :
    (setAuthtype st s authtype).line s = (st.line s).grant authtype := by
  unfold setAuthtype State.line
  rw [State.setLocal_same]
  rfl

@[simp] theorem lcpRestart_line : (lcpRestart st s).line s = (st.line s).restart := by
  unfold lcpRestart Line.restart
  simp only [changeState_line, enter_line]

namespace Line

/-- A configuration request is sent. -/
def Asks (fsm : Fsm) (line line' : Line) : Prop :=
  ∃ packet, packet.head? = some configReq ∧ line' = line.say fsm packet

theorem Asks.ppp {fsm : Fsm} {line asked : Line} (asks : Asks fsm line asked) :
    asked.ppp = line.ppp := by
  obtain ⟨packet, _, rfl⟩ := asks
  exact say_ppp ..

theorem Asks.authtype {fsm : Fsm} {line asked : Line} (asks : Asks fsm line asked) :
    asked.authtype = line.authtype := by
  obtain ⟨packet, _, rfl⟩ := asks
  exact say_authtype ..

theorem Asks.config {fsm : Fsm} {line asked : Line} (asks : Asks fsm line asked) :
    asked.config = line.config := by
  obtain ⟨packet, _, rfl⟩ := asks
  exact say_config ..

/-- IPCP comes up; IPV6CP is started if it is passive. -/
inductive IpcpRises (line : Line) : Line → Prop where
  | alone (active : line.ppp.ipv6cp ≠ .stopped) : IpcpRises line (line.set .ipcp .opened)
  | starting {asked : Line} (passive : line.ppp.ipv6cp = .stopped)
      (asks : Asks .ipv6cp (line.set .ipcp .opened) asked) :
      IpcpRises line (asked.set .ipv6cp .requestSent)

/-- LCP comes up: to the authentication phase, or to the network phase, where IPCP is
negotiated unless the bundle has done so. -/
inductive LcpRises (line : Line) : Line → Prop where
  | gated (asked : line.authtype ≠ 0) :
      LcpRises line ((line.enter .authenticate).set .lcp .opened)
  | network {asked : Line} (ipv6 : FsmState) (free : line.authtype = 0)
      (asks : Asks .ipcp ((line.enter .network).set .lcp .opened) asked)
      (passive : ipv6 = .closed ∨ ipv6 = .stopped) :
      LcpRises line (((asked.set .ipcp .requestSent).set .ipv6cp ipv6).set .ccp .stopped)
  | bundled {line' : Line} (free : line.authtype = 0)
      (rises : IpcpRises ((line.enter .network).set .lcp .opened) line') : LcpRises line line'

end Line

theorem sendlcp_asks : Line.Asks .lcp (st.line s) ((sendlcp st s).line s) := by
  unfold sendlcp
  dsimp only
  rw [restartTimer_line, show pppLcp = Fsm.lcp.proto from rfl, emit_say, setLocal_line rfl]
  refine ⟨_, ?_, rfl⟩
  rfl

theorem sendccp_asks : Line.Asks .ccp (st.line s) ((sendccp st s).line s) := by
  unfold sendccp
  dsimp only
  rw [restartTimer_line, show pppCcp = Fsm.ccp.proto from rfl, emit_say, setLocal_line rfl]
  refine ⟨_, ?_, rfl⟩
  rfl

theorem sendipv6cp_asks : Line.Asks .ipv6cp (st.line s) ((sendipv6cp st s).line s) := by
  unfold sendipv6cp
  rw [restartTimer_line, show pppIpv6cp = Fsm.ipv6cp.proto from rfl, emit_say]
  refine ⟨_, ?_, rfl⟩
  rfl

theorem sendipcp_asks : Line.Asks .ipcp (st.line s) ((sendipcp st s).line s) := by
  unfold sendipcp
  dsimp only
  rw [restartTimer_line, show pppIpcp = Fsm.ipcp.proto from rfl, emit_say]
  split
  · rw [setSession_line rfl]
    refine ⟨_, ?_, rfl⟩
    rfl
  · refine ⟨_, ?_, rfl⟩
    rfl

theorem sendchap_fades : Fades (st.line s) ((sendchap st i).line s) := by
  have allocated : (radiusnew st i).1.line s = st.line s := radiusnew_line i
  unfold sendchap
  dsimp only
  rw [← allocated]
  generalize (radiusnew st i).1 = base
  generalize (radiusnew st i).2 = r
  generalize (if (base.radius r).state = .chap then (base.radius r).tries else 0) = tried
  split
  · exact .same
  · split
    · exact Fades.trans (.of_eq (setRadius_line r _)) (sessionshutdown_fades ..)
    · apply Fades.of_eq
      rw [emit_line (Effect.quiet_proto (fun fsm => by cases fsm <;> decide) _ _)]
      rfl

theorem ipcpOpen_rises : (st.line s).IpcpRises ((ipcpOpen st s).line s) := by
  have opened : (changeState st s .ipcp .opened).line s = (st.line s).set .ipcp .opened :=
    changeState_line ..
  have onward {started : State} (same : started.line s = (st.line s).set .ipcp .opened) :
      (st.line s).IpcpRises ((if (started.session s).ppp.ipv6cp = .stopped then
        changeState (sendipv6cp started s) s .ipv6cp .requestSent else started).line s) := by
    have ipv6cp : (started.session s).ppp.ipv6cp = (st.line s).ppp.ipv6cp :=
      congrArg (fun line => line.ppp.ipv6cp) same
    by_cases passive : (started.session s).ppp.ipv6cp = .stopped
    · rw [if_pos passive, changeState_line]
      exact .starting (ipv6cp.symm.trans passive) (same ▸ sendipv6cp_asks)
    · rw [if_neg passive, same]
      exact .alone fun stopped => passive (ipv6cp.trans stopped)
  unfold ipcpOpen
  dsimp only
  apply onward
  split
  · exact opened
  · split
    · exact (radiusnew_line s).trans opened
    · rw [emit_line fun _ => rfl, setSession_line rfl]
      exact (radiussendOr_line _ rfl).trans ((radiusnew_line s).trans opened)

theorem lcpOpen_rises :
    ∃ up, (st.line s).LcpRises up ∧ Fades up ((lcpOpen st s).line s) := by
  unfold lcpOpen
  dsimp only
  by_cases free : (st.sessLocal s).lcpAuthtype = 0
  · rw [if_neg (not_not.mpr free), if_neg nofun]
    have opened : (changeState (st.setSession s fun session =>
        { session with ppp := { session.ppp with phase := .network } }) s .lcp .opened).line s =
        ((st.line s).enter .network).set .lcp .opened := by
      rw [changeState_line, enter_line]
    generalize changeState (st.setSession s fun session =>
      { session with ppp := { session.ppp with phase := .network } }) s .lcp .opened = base
      at opened ⊢
    split
    · simp only [changeState_line]
      refine ⟨_, .network _ free ?_ ?_, .same⟩
      · rw [← opened]
        exact sendipcp_asks
      · split
        · exact .inl rfl
        · exact .inr rfl
    · refine ⟨_, .bundled free ?_, .same⟩
      rw [← opened]
      exact ipcpOpen_rises
  · rw [if_pos free, if_pos rfl]
    refine ⟨_, .gated free, ?_⟩
    have opened : (changeState (st.setSession s fun session =>
        { session with ppp := { session.ppp with phase := .authenticate } }) s .lcp .opened).line
        s = ((st.line s).enter .authenticate).set .lcp .opened := by
      rw [changeState_line, enter_line]
    rw [← opened]
    split
    · exact sendchap_fades s
    · exact .same

end L2tpns.Server
