import L2tpns.Server.SlotOwnership

/-! # RADIUS slots of a running master

Slots are taken, sent from, retried, answered and given up in any order. The answer that
has a session forwarded counts the slot up while it clears the routes of the session; it
then frees the slot after its own (`L2tpns.Server.slots_misowned`). In every run without
such an answer, sessions and slots name each other (`L2tpns.Server.slots_owned`).
-/

namespace L2tpns.Server

open Foundation Function State

variable {st st' : State} {s : Nat}

/-- The settings and tunnels that decide about forwarding. -/
def State.setting (st : State) : Config × (Nat → Tunnel) × Nat :=
  (st.config, st.tunnel, st.highestTunnelid)

theorem sessionshutdown_setting (s : Nat) (reason : String) (cdnResult cdnError : Nat)
    (termCause : Option TermCause) :
    (sessionshutdown st s reason cdnResult cdnError termCause).setting = st.setting := by
  have kept : Kept st (sessionshutdown st s reason cdnResult cdnError termCause) :=
    sessionshutdown_kept ..
  rw [State.setting, kept.config, kept.tunnels, kept.highestTunnelid]
  rfl

theorem applyAttribute_setting (s : Nat) (accepting : Accepting) (item : RadAttribute) :
    (applyAttribute s accepting item).st.setting = accepting.st.setting := by
  cases item with
  | framedRoute ip prefixlen | framedIpv6Route route prefixlen =>
      simp only [applyAttribute]
      split <;> rfl
  | filterId side name =>
      simp only [applyAttribute]
      split
      · rfl
      · rw [useFilter]
        split <;> rfl
  | sessionTimeout seconds =>
      simp only [applyAttribute]
      split
      · exact (sessionshutdown_setting ..).trans rfl
      · rfl
  | _ => rfl

theorem applyAttribute_unrouted (s : Nat) (accepting : Accepting) (item : RadAttribute)
    (nowhere : ∀ ip prefixlen, item = .framedRoute ip prefixlen → ip = 0)
    (unrouted : (accepting.st.session s).route = []) :
    ((applyAttribute s accepting item).st.session s).route = [] := by
  have kept {change : Session → Session}
      (keeps : (change (accepting.st.session s)).route = (accepting.st.session s).route) :
      ((accepting.st.setSession s change).session s).route = [] := by
    rw [setSession_same, keeps, unrouted]
  cases item with
  | framedRoute ip prefixlen =>
      simp only [applyAttribute]
      rw [if_pos (Or.inr (nowhere ip prefixlen rfl))]
      exact unrouted
  | filterId side name =>
      simp only [applyAttribute]
      split
      · exact unrouted
      · have used (st : State) (filter : Nat) : (useFilter st filter).session = st.session := by
          rw [useFilter]
          split <;> rfl
        rw [used]
        apply kept
        cases side <;> rfl
  | sessionTimeout seconds =>
      simp only [applyAttribute]
      split
      · exact sessionshutdown_unrouted _ _ _ _ _ (kept (by rfl))
      · exact kept (by rfl)
  | framedIpv6Route route prefixlen =>
      simp only [applyAttribute]
      split
      · exact unrouted
      · rw [setSession_same]
        exact unrouted
  | tunnelType | other => exact unrouted
  | _ =>
      simp only [applyAttribute]
      rw [setSession_same]
      exact unrouted

theorem applyAttribute_asks (s : Nat) (accepting : Accepting) (item : RadAttribute)
    (other : item ≠ .tunnelType) :
    (applyAttribute s accepting item).opentunnelReq = accepting.opentunnelReq := by
  cases item with
  | tunnelType => exact absurd rfl other
  | framedRoute ip prefixlen | filterId side name | framedIpv6Route route prefixlen =>
      simp only [applyAttribute]
      split <;> rfl
  | _ => rfl

/-- What the attributes of an accept leave alone, and whether they ask for a tunnel. -/
theorem applyAttributes_spec (s : Nat) (items : List RadAttribute) (accepting : Accepting) :
    (items.foldl (applyAttribute s) accepting).st.setting = accepting.st.setting ∧
      ((∀ ip prefixlen, RadAttribute.framedRoute ip prefixlen ∈ items → ip = 0) →
        (accepting.st.session s).route = [] →
          ((items.foldl (applyAttribute s) accepting).st.session s).route = []) ∧
      ((items.foldl (applyAttribute s) accepting).opentunnelReq →
        accepting.opentunnelReq ∨ RadAttribute.tunnelType ∈ items) := by
  induction items generalizing accepting with
  | nil => exact ⟨rfl, fun _ unrouted => unrouted, Or.inl⟩
  | cons item items ih =>
      obtain ⟨setting, route, asks⟩ := ih (applyAttribute s accepting item)
      rw [List.foldl_cons]
      refine ⟨setting.trans (applyAttribute_setting ..), fun nowhere unrouted => ?_,
        fun asked => ?_⟩
      · apply route fun ip prefixlen member =>
          nowhere ip prefixlen (List.mem_cons_of_mem _ member)
        apply applyAttribute_unrouted s accepting item _ unrouted
        rintro ip prefixlen rfl
        exact nowhere ip prefixlen List.mem_cons_self
      · rcases asks asked with before | later
        · by_cases tunnel : item = .tunnelType
          · exact Or.inr (tunnel ▸ List.mem_cons_self)
          · rw [applyAttribute_asks s accepting item tunnel] at before
            exact Or.inl before
        · exact Or.inr (List.mem_cons_of_mem _ later)

variable {x : Nat} {quitting : Bool}

theorem sessionkill_unrouted (some : s ≠ 0) (nonzero : x ≠ 0) (reason : Option String)
    (termCause : Option TermCause) (unrouted : (st.session x).route = []) :
    ((sessionkill st s reason termCause).session x).route = [] := by
  have shut : ((shutForKill st s reason termCause).session x).route = [] := by
    rw [shutForKill]
    split
    · exact sessionshutdown_unrouted _ _ _ _ _ unrouted
    · exact unrouted
  have released : (releaseSlot (shutForKill st s reason termCause) s).session =
      (shutForKill st s reason termCause).session :=
    congrArg Estate.session (releaseSlot_estate s)
  have linked : ∀ st : State, (st.session x).route = [] →
      ((shutLinked st s reason).session x).route = [] := by
    intro st unrouted
    simp only [shutLinked]
    split
    · exact sessionshutdown_unrouted _ _ _ _ _ unrouted
    · exact unrouted
  simp only [sessionkill]
  split_ifs
  · exact unrouted
  · exact unrouted
  · rw [emit_session, sessionclear_session _ some, update_of_ne nonzero]
    by_cases same : x = s
    · rw [same, update_self]
      rfl
    · rw [update_of_ne same]
      apply linked
      rw [released]
      exact shut

theorem killSessions_unrouted (nonzero : x ≠ 0) (t : Nat) (reason : Option String)
    (count : Nat) : ∀ (s : Nat) (st : State), s ≠ 0 → (st.session x).route = [] →
      ((killSessions st t reason s count).session x).route = [] := by
  induction count with
  | zero => exact fun _ _ _ unrouted => unrouted
  | succ count ih =>
      intro s st some unrouted
      apply ih (s + 1) _ (Nat.succ_ne_zero s)
      split
      · exact sessionkill_unrouted some nonzero _ _ unrouted
      · exact unrouted

theorem shutSessions_unrouted (t : Nat) (reason : String) (count : Nat) :
    ∀ (s : Nat) (st : State), (st.session x).route = [] →
      ((shutSessions st t reason s count).session x).route = [] := by
  induction count with
  | zero => exact fun _ _ unrouted => unrouted
  | succ count ih =>
      intro s st unrouted
      apply ih (s + 1)
      split
      · exact sessionshutdown_unrouted _ _ _ _ _ unrouted
      · exact unrouted

theorem tunnelclear_session (t : Nat) : (tunnelclear st t).session = st.session := by
  rw [tunnelclear]
  split <;> rfl

theorem tunnelshutdown_unrouted (nonzero : x ≠ 0) (t : Nat) (reason : String)
    (result : Nat) (unrouted : (st.session x).route = []) :
    ((tunnelshutdown st t reason result).session x).route = [] := by
  simp only [tunnelshutdown]
  split
  · simp only [tunnelkill]
    rw [emit_session, tunnelclear_session]
    exact killSessions_unrouted nonzero _ _ _ _ _ Nat.one_ne_zero unrouted
  · have shut := shutSessions_unrouted t reason st.highestSessionid 1 st unrouted
    split <;> exact shut

theorem lacOpenTunnel_session (lns : RemoteLns) :
    (lacOpenTunnel st lns).1.session = st.session := by
  have assigned : (newTunnel st).1.session = st.session := by
    rw [newTunnel]
    split <;> rfl
  simp only [lacOpenTunnel]
  split
  · exact assigned
  · exact (tunnelclear_session _).trans assigned

theorem openSession_unrouted (nonzero : x ≠ 0) (e t : Nat)
    (unrouted : (st.session x).route = []) : ((openSession st e t).session x).route = [] := by
  rw [openSession_session, update_apply]
  split
  · rfl
  · rw [update_of_ne nonzero]
    exact unrouted

theorem lacOpenSession_unrouted (nonzero : x ≠ 0) (t : Nat) (puser : List UInt8)
    (unrouted : (st.session x).route = []) :
    ((lacOpenSession st t s puser).session x).route = [] := by
  simp only [lacOpenSession]
  rw [setSession_frame Session.route rfl, setSession_frame Session.route rfl,
    emit_session, setSession_frame Session.route rfl]
  exact openSession_unrouted nonzero _ t unrouted

theorem lacCreateTunnelsession_unrouted (nonzero : x ≠ 0) (quitting : Bool) (t : Nat)
    (lns : RemoteLns) (puser : List UInt8) (unrouted : (st.session x).route = []) :
    ((lacCreateTunnelsession st quitting t s lns puser).1.session x).route = [] := by
  rw [lacCreateTunnelsession]
  split_ifs
  · exact unrouted
  · rw [lacOpenTunnel_session]
    exact unrouted
  · exact tunnelshutdown_unrouted nonzero _ _ _ unrouted
  · exact lacOpenSession_unrouted nonzero _ _ unrouted
  · exact unrouted

/-- A session is forwarded, if a tunnel leads to the remote LNS or can be opened. -/
def lacForwards (st : State) (quitting : Bool) (lns : RemoteLns) : Prop :=
  lacRadTunnel st lns ≠ 0 ∨ ¬ quitting ∧ (newTunnel st).2 ≠ 0

theorem lacCreateTunnelsession_forwards {lns : RemoteLns} (puser : List UInt8) :
    (lacCreateTunnelsession st quitting (lacRadTunnel st lns) s lns puser).2 →
      lacForwards st quitting lns := by
  intro forwarded
  by_cases none : lacRadTunnel st lns = 0
  · right
    rw [lacCreateTunnelsession, if_pos none] at forwarded
    split at forwarded
    · cases forwarded
    · rename_i running
      refine ⟨running, fun full => ?_⟩
      simp only [lacOpenTunnel, if_pos full] at forwarded
      cases forwarded
  · exact Or.inl none

theorem lacCreateTunnelsession_stays {t : Nat} {lns : RemoteLns} {puser : List UInt8}
    (stays : ¬ (lacCreateTunnelsession st quitting t s lns puser).2) :
    (lacCreateTunnelsession st quitting t s lns puser).1.desk = st.desk := by
  rw [lacCreateTunnelsession] at stays ⊢
  split_ifs at stays ⊢
  · rfl
  · exact lacOpenTunnel_desk lns
  · exact absurd rfl stays
  · exact absurd rfl stays
  · exact absurd rfl stays

theorem Releases.lacCreateTunnelsession (assigned : Assigned st) (awake : st.Awake)
    (opened : (st.session s).opened ≠ 0) {t : Nat}
    (room : lacOpens st quitting t → st.sessionfree ≠ 0) (lns : RemoteLns) (puser : List UInt8) :
    Releases st (lacCreateTunnelsession st quitting t s lns puser).1 := by
  rw [Server.lacCreateTunnelsession]
  split_ifs with new quits up quits
  · exact refl assigned
  · exact of_desk assigned (lacOpenTunnel_desk lns)
  · exact tunnelshutdown assigned awake ..
  · exact lacOpenSession assigned (room ⟨new, up, quits⟩) opened t puser
  · exact refl assigned

theorem findTunnel_setting (same : st'.tunnel = st.tunnel) (count : Nat) :
    ∀ t, findTunnel st' t count = findTunnel st t count := by
  induction count with
  | zero => exact fun _ => rfl
  | succ count ih =>
      intro t
      rw [findTunnel, findTunnel, same, ih]

/-- Whether and how a session is forwarded depends on the settings and tunnels. -/
theorem forwarding_setting (same : st'.setting = st.setting) (quitting : Bool)
    (lns : RemoteLns) :
    lacRadTunnel st' lns = lacRadTunnel st lns ∧
      (lacForwards st' quitting lns ↔ lacForwards st quitting lns) ∧
      ∀ t, lacOpens st' quitting t ↔ lacOpens st quitting t := by
  have tunnel : st'.tunnel = st.tunnel := congrArg (fun setting => setting.2.1) same
  have highest : st'.highestTunnelid = st.highestTunnelid :=
    congrArg (fun setting => setting.2.2) same
  have found : lacRadTunnel st' lns = lacRadTunnel st lns := by
    rw [lacRadTunnel, lacRadTunnel, tunnel, highest]
  have free : (newTunnel st').2 = (newTunnel st).2 := by
    rw [newTunnel, newTunnel, findTunnel_setting tunnel]
    split <;> rfl
  refine ⟨found, ?_, fun t => ?_⟩
  · rw [lacForwards, lacForwards, found, free]
  · rw [lacOpens, lacOpens, tunnel]

/-- An answer that is taken as the Access-Accept of a session. -/
def Accepts (st : State) (answer : RadAnswer) : Prop :=
  (st.radius answer.slot).session ≠ 0 ∧ (st.radius answer.slot).state.isAuth ∧
    answer.authentic ∧ answer.code = .accessAccept

/-- An Access-Accept that has its session forwarded to a remote LNS. -/
def Forwards (st : State) (quitting : Bool) (answer : RadAnswer) (lns : RemoteLns) : Prop :=
  Accepts st answer ∧ ¬ st.config.disableLacFunc ∧ .tunnelType ∈ answer.attributes ∧
    answer.assignmentId ∧ answer.remoteLns = some lns ∧ lacForwards st quitting lns

/-- The session of a slot has no route, nor is it given one. -/
def Unrouted (st : State) (answer : RadAnswer) : Prop :=
  (st.session (st.radius answer.slot).session).route = [] ∧
    ∀ ip prefixlen, .framedRoute ip prefixlen ∈ answer.attributes → ip = 0

/-- An answer that has a session forwarded finds a session on the list, and either the
session has no route or the number of the slot is too large for one. -/
def Harmless (st : State) (quitting : Bool) (answer : RadAnswer) : Prop :=
  ∀ lns, Forwards st quitting answer lns →
    (maxRoute ≤ answer.slot ∨ Unrouted st answer) ∧
      (lacOpens st quitting (lacRadTunnel st lns) → st.sessionfree ≠ 0)

theorem sessionfree_of_desk (same : st'.desk = st.desk) : st'.sessionfree = st.sessionfree :=
  congrFun (congrArg Desk.next same) 0

theorem clearForwarded_desk (s r : Nat) : (clearForwarded st s r).1.desk = st.desk := by
  simp only [clearForwarded]
  split
  · exact (setSession_desk rfl rfl rfl).trans (setSession_desk rfl rfl rfl)
  · exact setSession_desk rfl rfl rfl

theorem clearForwarded_slot {r : Nat} (few : maxRoute ≤ r ∨ (st.session s).route = []) :
    (clearForwarded st s r).2 = r := by
  simp only [clearForwarded]
  split
  · rename_i routed
    rcases few with large | unrouted
    · exact absurd routed.1 (Nat.not_lt_of_le large)
    · exact absurd (setSession_frame Session.route rfl s |>.trans unrouted) routed.2
  · rfl

theorem Releases.lacRadForwardtoremotelns (assigned : Assigned st) (awake : st.Awake)
    (opened : (st.session s).opened ≠ 0) (quitting : Bool) (remote : Option RemoteLns)
    (room : ∀ lns, remote = Option.some lns → lacOpens st quitting (lacRadTunnel st lns) →
      st.sessionfree ≠ 0) (puser : List UInt8) :
    ((Server.lacRadForwardtoremotelns st quitting s remote puser).2 →
      Releases st (Server.lacRadForwardtoremotelns st quitting s remote puser).1 ∧
        (∃ lns, remote = Option.some lns ∧ lacForwards st quitting lns) ∧
        ((st.session s).route = [] →
          ((Server.lacRadForwardtoremotelns st quitting s remote puser).1.session s).route =
            [])) ∧
      (¬ (Server.lacRadForwardtoremotelns st quitting s remote puser).2 →
        (Server.lacRadForwardtoremotelns st quitting s remote puser).1.desk = st.desk) := by
  cases remote with
  | none => exact ⟨fun forwarded => absurd forwarded nofun, fun _ => rfl⟩
  | some lns =>
      refine ⟨fun forwarded => ⟨?_, ⟨lns, rfl, ?_⟩, ?_⟩, lacCreateTunnelsession_stays⟩
      · exact lacCreateTunnelsession assigned awake opened (room lns rfl) lns puser
      · exact lacCreateTunnelsession_forwards puser forwarded
      · exact lacCreateTunnelsession_unrouted (assigned.nonzero opened) _ _ _ _

/-- An Access-Accept frees no slot but that of its session. -/
theorem Releases.accessAccept {answer : RadAnswer} (assigned : Assigned st)
    (awake : st.Awake) (accepts : Accepts st answer) (harmless : Harmless st quitting answer) :
    Releases st
        (accessAccept st quitting answer.slot (st.radius answer.slot).session answer).1 ∧
      (Server.accessAccept st quitting answer.slot (st.radius answer.slot).session answer).2 =
        answer.slot := by
  obtain ⟨nonzero, own⟩ := assigned.slot accepts.1
  generalize holds : (st.radius answer.slot).session = s at own
  have some : s ≠ 0 := holds ▸ accepts.1
  have same : (answer.attributes.foldl (applyAttribute s) ⟨st, 0, 0, false⟩).st.desk = st.desk :=
    applyAttributes_desk s _ ⟨st, 0, 0, false⟩ awake
  obtain ⟨setting, route, asks⟩ := applyAttributes_spec s answer.attributes ⟨st, 0, 0, false⟩
  simp only [Server.accessAccept]
  generalize answer.attributes.foldl (applyAttribute s) ⟨st, 0, 0, false⟩ = accepted at *
  obtain ⟨applied, routes, routes6, opentunnelReq⟩ := accepted
  simp only at same setting route asks ⊢
  have granted := of_desk assigned same
  have ready : (applied.sessLocal s).radius = answer.slot := (slot_of_desk same s).trans own
  have finish {forwarded : State} (stays : forwarded.desk = applied.desk) (t : Nat) :
      Releases st (Server.finishAccept forwarded answer.slot s t) := by
    have still := granted.andThen stays
    exact still.trans (finishAccept still.assigned (still.awake awake) some nonzero
      ((slot_of_desk stays s).trans ready) t)
  split
  · rename_i asked
    split
    · exact ⟨granted, rfl⟩
    · rename_i named
      have accepting (lns : RemoteLns) (remote : answer.remoteLns = Option.some lns)
          (willing : lacForwards applied quitting lns) : Forwards st quitting answer lns := by
        refine ⟨accepts, ?_, (asks asked.2).resolve_left nofun, not_not.mp named, remote,
          (forwarding_setting setting quitting lns).2.1.mp willing⟩
        have config : applied.config = st.config := congrArg Prod.fst setting
        exact config ▸ asked.1
      have opened : (applied.session s).opened ≠ 0 :=
        granted.assigned.inUse s some (by rw [ready]; exact nonzero)
      obtain ⟨forwarding, staying⟩ := lacRadForwardtoremotelns granted.assigned
        (granted.awake awake) opened quitting answer.remoteLns
        (fun lns remote opens => by
          obtain ⟨found, _, opensHere⟩ := forwarding_setting setting quitting lns
          rw [sessionfree_of_desk same]
          apply (harmless lns (accepting lns remote (Or.inl opens.1))).2
          rw [← opensHere, ← found]
          exact opens)
        (applied.session s).user
      generalize Server.lacRadForwardtoremotelns applied quitting s answer.remoteLns
        (applied.session s).user = forwarded at forwarding staying ⊢
      split_ifs with flag
      · obtain ⟨released, ⟨lns, remote, willing⟩, unrouted⟩ := forwarding flag
        refine ⟨(granted.trans released).andThen (clearForwarded_desk ..), clearForwarded_slot ?_⟩
        refine (harmless lns (accepting lns remote willing)).1.imp_right fun nowhere => ?_
        rw [Unrouted, holds] at nowhere
        exact unrouted (route nowhere.2 nowhere.1)
      · exact ⟨finish (staying flag) _, rfl⟩
  · exact ⟨finish rfl _, rfl⟩

theorem Releases.free (releases : Releases st st') (assigned : Assigned st) {r : Nat}
    (some : (st.radius r).session ≠ 0) :
    Assigned (radiusclear st' r (st.radius r).session) := by
  obtain ⟨nonzero, own⟩ := assigned.slot some
  apply releases.assigned.radiusclear
  · rcases releases.slots (st.radius r).session with same | none
    · exact fun _ => Or.inl (same.trans own)
    · exact fun _ => Or.inr none
  · intro _ o someOther other
    rcases releases.slots o with same | none
    · rw [same]
      exact assigned.unshared nonzero someOther other
    · rw [none]
      exact nonzero.symm

theorem RadiusState.isAuth_stop : RadiusState.stop.isAuth = false := rfl

theorem Assigned.processrad (assigned : Assigned st) {answer : RadAnswer}
    (awake : st.Awake) (harmless : Harmless st quitting answer) :
    Assigned (processrad st quitting answer) := by
  simp only [Server.processrad]
  by_cases unknown : (st.radius answer.slot).session = 0 ∧ (st.radius answer.slot).state ≠ .stop
  · rw [if_pos unknown]
    exact assigned
  rw [if_neg unknown]
  split
  · exact assigned
  split
  · exact assigned
  rename_i authentic
  split
  · exact assigned
  split
  · exact assigned.free answer.slot
  rename_i accounting
  have auth : (st.radius answer.slot).state.isAuth := not_not.mp accounting
  have some : (st.radius answer.slot).session ≠ 0 := by
    intro none
    have stop : (st.radius answer.slot).state = .stop := by
      by_contra other
      exact unknown ⟨none, other⟩
    rw [stop, RadiusState.isAuth_stop] at auth
    cases auth
  split
  · rename_i accept
    obtain ⟨releases, same⟩ := Releases.accessAccept assigned awake
      ⟨some, auth, not_not.mp authentic, accept⟩ harmless
    rw [same]
    exact releases.free assigned some
  · exact (Releases.sessionkill assigned awake ..).free assigned some

theorem Assigned.sendchap (assigned : Assigned st) (opened : s = 0 ∨ (st.session s).opened ≠ 0) :
    Assigned (sendchap st s) := by
  have allocated := assigned.radiusnew opened
  simp only [Server.sendchap]
  generalize (if ((Server.radiusnew st s).1.radius (Server.radiusnew st s).2).state = .chap then
    ((Server.radiusnew st s).1.radius (Server.radiusnew st s).2).tries else 0) = tried
  split_ifs
  · exact allocated
  · apply (Assigned.sessionshutdown _ ..).1
    exact allocated.setRadius (by rfl) nofun
  · apply Assigned.of_desk _ (emit_desk _)
    exact allocated.setRadius (by rfl) nofun

theorem Assigned.radiussend (assigned : Assigned st) (r : Nat) {request : RadiusState}
    (awaiting : request.isAwaiting) : Assigned (radiussend st r request) :=
  Assigned.radiussendOr (fun _ _ assigned => (assigned.sessionshutdown ..).1) assigned r awaiting

theorem Assigned.radiusretry (assigned : Assigned st) (r : Nat) : Assigned (radiusretry st r) := by
  have opened : (st.radius r).session = 0 ∨ (st.session (st.radius r).session).opened ≠ 0 := by
    by_cases none : (st.radius r).session = 0
    · exact Or.inl none
    · obtain ⟨nonzero, own⟩ := assigned.slot none
      exact Or.inr (assigned.inUse _ none (own.trans_ne nonzero))
  simp only [Server.radiusretry]
  split
  · exact assigned.sendchap opened
  · exact assigned.free r
  · exact assigned.free r
  · rename_i chap null wait
    apply assigned.radiussend
    generalize (st.radius r).state = state at chap null wait
    cases state with
    | chap => exact absurd rfl chap
    | null => exact absurd rfl null
    | wait => exact absurd rfl wait
    | _ => rfl

/-- What takes and frees slots. -/
inductive SlotAction where
  | radiusnew (s : Nat)
  | radiussend (r : Nat) (request : RadiusState)
  | sendchap (s : Nat)
  | radiusretry (r : Nat)
  | processrad (quitting : Bool) (answer : RadAnswer)
  | shutdown (s : Nat) (reason : String) (cdnResult cdnError : Nat)
      (termCause : Option TermCause)
  | kill (s : Nat) (reason : Option String) (termCause : Option TermCause)
  | tick (time timeNow : Nat)

/-- The tables after an action. -/
def SlotAction.perform (st : State) : SlotAction → State
  | .radiusnew s => (Server.radiusnew st s).1
  | .radiussend r request => Server.radiussend st r request
  | .sendchap s => Server.sendchap st s
  | .radiusretry r => Server.radiusretry st r
  | .processrad quitting answer => Server.processrad st quitting answer
  | .shutdown s reason cdnResult cdnError termCause =>
      sessionshutdown st s reason cdnResult cdnError termCause
  | .kill s reason termCause => sessionkill st s reason termCause
  | .tick time timeNow => { st with time := time, timeNow := timeNow }

/-- What the callers see to: slots are taken for sessions that are open, and what is sent
is a request. The clock is never 0. -/
def SlotAction.Called (st : State) : SlotAction → Prop
  | .radiusnew s | .sendchap s => (st.session s).opened ≠ 0
  | .radiussend _ request => request.isAwaiting
  | .tick _ timeNow => timeNow ≠ 0
  | _ => True

/-- A table in which no slot was taken and no session is linked to itself. -/
structure Unused (st : State) : Prop where
  radius : ∀ r, st.radius r = .zero
  slots : ∀ s, (st.sessLocal s).radius = 0
  unlinked : ∀ s, s ≠ 0 → (st.session s).forwardtosession ≠ s

/-- A master from its takeover on. -/
def slotSystem : TransitionSystem State SlotAction where
  initial st := ∃ table, Received table ∧ Unused table ∧ st = takeSessions table
  step st action next := next = action.perform st ∧ action.Called st

/-- No answer that has a session with a route forwarded is for one of the first slots, and
the forwarding of a session finds another on the list. The time to die that is noted is
not 0. -/
def Careful (st : State) : SlotAction → Prop
  | .processrad quitting answer => st.Awake ∧ Harmless st quitting answer
  | _ => True

/-- Sessions and slots in use name each other. -/
structure Owned (st : State) : Prop where
  owns : ∀ s r, (st.session s).opened ≠ 0 → r ≠ 0 →
    ((st.sessLocal s).radius = r ↔ (st.radius r).state ≠ .null ∧ (st.radius r).session = s)
  unshared : ∀ s s', (st.session s).opened ≠ 0 → (st.session s').opened ≠ 0 →
    (st.sessLocal s).radius ≠ 0 → (st.sessLocal s).radius = (st.sessLocal s').radius → s = s'
  reaches : ∀ r, (st.radius r).session ≠ 0 →
    (st.session (st.radius r).session).opened ≠ 0 ∧
      (st.sessLocal (st.radius r).session).radius = r

theorem Assigned.owned (assigned : Assigned st) : Owned st := by
  refine ⟨fun s r opened nonzero => ⟨assigned.owns (assigned.nonzero opened) nonzero, ?_⟩,
    fun s s' opened opened' taken same => ?_, fun r some => ?_⟩
  · rintro ⟨_, rfl⟩
    exact (assigned.slot (assigned.nonzero opened)).2
  · exact assigned.paired.unshared (assigned.nonzero opened) (assigned.nonzero opened') taken same
  · obtain ⟨nonzero, own⟩ := assigned.slot some
    exact ⟨assigned.inUse _ some (own.trans_ne nonzero), own⟩

theorem Assigned.perform (assigned : Assigned st) {action : SlotAction}
    (careful : Careful st action) (called : action.Called st) :
    Assigned (action.perform st) := by
  cases action with
  | radiusnew s => exact assigned.radiusnew (Or.inr called)
  | radiussend r request => exact assigned.radiussend r called
  | sendchap s => exact assigned.sendchap (Or.inr called)
  | radiusretry r => exact assigned.radiusretry r
  | processrad quitting answer => exact assigned.processrad careful.1 careful.2
  | shutdown s reason cdnResult cdnError termCause => exact (assigned.sessionshutdown ..).1
  | kill s reason termCause => exact assigned.sessionkill ..
  | tick time timeNow =>
      exact ⟨⟨assigned.strung.list, assigned.strung.inUse, called⟩, assigned.paired,
        assigned.inUse, assigned.unowned, assigned.unlinked⟩

theorem Unused.setSession (unused : Unused st) {change : Session → Session}
    (linked : (change (st.session s)).forwardtosession = (st.session s).forwardtosession ∨
      (change (st.session s)).forwardtosession = 0) : Unused (st.setSession s change) := by
  refine ⟨unused.radius, unused.slots, fun o some => ?_⟩
  by_cases same : o = s
  · rw [same, setSession_same]
    rcases linked with kept | none
    · rw [kept]
      exact unused.unlinked s (same ▸ some)
    · rw [none, ← same]
      exact some.symm
  · rw [setSession_other same]
    exact unused.unlinked o some

theorem Unused.of_desk (unused : Unused st) (same : st'.desk = st.desk) : Unused st' := by
  have radius : st'.radius = st.radius := congrArg Desk.radius same
  refine ⟨fun r => radius ▸ unused.radius r, fun s => ?_, fun s some => ?_⟩
  · rw [slot_of_desk same]
    exact unused.slots s
  · rw [linked_of_desk same]
    exact unused.unlinked s some

theorem Unused.restringSession (unused : Unused st) (lastFree i : Nat) :
    Unused (restringSession st lastFree i).1 := by
  simp only [Server.restringSession]
  split
  · dsimp only
    refine Unused.setSession (Unused.setSession (Unused.setSession unused ?_) ?_) ?_
    · exact Or.inr rfl
    · exact Or.inl rfl
    · exact Or.inl rfl
  · have reset : Unused (resetSession st i) := by
      obtain ⟨radius, slots, unlinked⟩ : Unused (st.setSession i fun session =>
        { session with
          tunnel := if session.tunnel = tUndef then 0 else session.tunnel
          lastPacket := st.timeNow
          lastData := st.timeNow
          die := if session.die = 0 then 0 else st.time }) := unused.setSession (Or.inl rfl)
      refine ⟨radius, fun o => ?_, unlinked⟩
      by_cases same : o = i
      · rw [same, resetSession, setLocal_same]
      · rw [resetSession, setLocal_other same]
        exact slots o
    exact reset.of_desk (throttleSession_desk ..)

theorem Unused.restringSessions (unused : Unused st) (count : Nat) :
    ∀ lastFree i, Unused (restringSessions st lastFree i count).1 := by
  induction count generalizing st with
  | zero => exact fun _ _ => unused
  | succ count ih => exact fun lastFree i => ih (unused.restringSession lastFree i) _ _

theorem Unused.assigned (unused : Unused st) (strung : Strung st) : Assigned st := by
  refine ⟨strung, fun s r some nonzero => ⟨fun same => ?_, fun owner => ?_⟩,
    fun s _ taken => absurd (unused.slots s) taken, fun r _ => ?_, unused.unlinked⟩
  · exact absurd (same.symm.trans (unused.slots s)) nonzero
  · rw [State.owner, unused.radius] at owner
    exact absurd owner.symm some
  · rw [unused.radius]
    rfl

theorem Unused.strung (unused : Unused st) (count : Nat) :
    Unused ((Server.restringSessions st 0 0 count).1.setSession
      (Server.restringSessions st 0 0 count).2 fun session => { session with next := 0 }) :=
  (unused.restringSessions count 0 0).setSession (Or.inl rfl)

theorem takeSessions_unused (unused : Unused st) : Unused (takeSessions st) := by
  have fresh : Unused { st with highestSessionid := 0, lastId := 0 } := unused.of_desk rfl
  have strung := fresh.strung maxSession
  simp only [takeSessions]
  exact strung

/-- Who owns a RADIUS slot. In every run whose answers are harmless, an open session has a
slot if and only if the slot is in use for it. -/
theorem slots_owned {st : State} (reached : slotSystem.ReachableUnder Careful st) : Owned st := by
  refine Assigned.owned (reached.invariant ?_ ?_)
  · rintro _ ⟨table, received, unused, rfl⟩
    exact (takeSessions_unused unused).assigned (takeSessions_strung received).1
  · rintro st action _ assigned careful ⟨rfl, called⟩
    exact assigned.perform careful called

theorem throttleSession_setting (st : State) (s : Nat) (rateIn rateOut : Int) :
    (throttleSession st s rateIn rateOut).setting = st.setting ∧
      (throttleSession st s rateIn rateOut).nextRadiusId = st.nextRadiusId := by
  rw [throttleSession]
  split
  · exact ⟨rfl, rfl⟩
  · exact ⟨rfl, rfl⟩

theorem restringSessions_setting (count : Nat) : ∀ (st : State) (lastFree i : Nat),
    (restringSessions st lastFree i count).1.setting = st.setting ∧
      (restringSessions st lastFree i count).1.nextRadiusId = st.nextRadiusId := by
  induction count with
  | zero => exact fun _ _ _ => ⟨rfl, rfl⟩
  | succ count ih =>
      intro st lastFree i
      have one : (restringSession st lastFree i).1.setting = st.setting ∧
          (restringSession st lastFree i).1.nextRadiusId = st.nextRadiusId := by
        simp only [restringSession]
        split
        · exact ⟨rfl, rfl⟩
        · have throttled := throttleSession_setting { resetSession st i with
            lastId := max (resetSession st i).lastId ((st.session i).uniqueId + 1) } i
            (st.session i).throttleIn (st.session i).throttleOut
          exact ⟨throttled.1, throttled.2⟩
      obtain ⟨setting, next⟩ := ih (restringSession st lastFree i).1
        (restringSession st lastFree i).2 (i + 1)
      exact ⟨setting.trans one.1, next.trans one.2⟩

theorem State.setSession_setting (s : Nat) (change : Session → Session) :
    (st.setSession s change).setting = st.setting ∧
      (st.setSession s change).nextRadiusId = st.nextRadiusId :=
  ⟨rfl, rfl⟩

theorem takeSessions_setting (st : State) :
    (takeSessions st).setting = st.setting ∧ (takeSessions st).nextRadiusId = st.nextRadiusId := by
  have strung := restringSessions_setting maxSession
    { st with highestSessionid := 0, lastId := 0 } 0 0
  simp only [takeSessions]
  exact ⟨(setSession_setting ..).1.trans strung.1,
    (setSession_setting ..).2.trans strung.2⟩

theorem getFreeRadius_next {count last : Nat} (some : 0 < count) (few : last + 1 < maxRadius)
    (free : (st.radius (last + 1)).state = .null) :
    getFreeRadius st count last = (last + 1, last + 1) := by
  obtain ⟨count, rfl⟩ := Nat.exists_eq_succ_of_ne_zero (Nat.ne_of_gt some)
  simp only [getFreeRadius]
  rw [if_neg (Nat.not_le_of_lt few), if_pos free]

/-- The slot after the last one is taken if it is free. -/
theorem radiusnew_next (st : State) (s : Nat) (none : (st.sessLocal s).radius = 0)
    (few : st.nextRadiusId + 1 < maxRadius)
    (free : (st.radius (st.nextRadiusId + 1)).state = .null) :
    (radiusnew st s).1.nextRadiusId = st.nextRadiusId + 1 ∧
      (radiusnew st s).1.radius = update st.radius (st.nextRadiusId + 1)
        { Radius.zero with
          session := s, state := .wait, retry := (st.time + 1200) % 2 ^ 32 } ∧
      (radiusnew st s).1.sessLocal = update st.sessLocal s
        { st.sessLocal s with radius := st.nextRadiusId + 1 } ∧
      (radiusnew st s).1.setting = st.setting := by
  have found : getFreeRadius st maxRadius st.nextRadiusId =
      (st.nextRadiusId + 1, st.nextRadiusId + 1) :=
    getFreeRadius_next (Nat.zero_lt_of_lt few) few free
  simp only [radiusnew, found]
  rw [if_neg (not_not.mpr none), if_neg (Nat.succ_ne_zero _)]
  exact ⟨rfl, rfl, rfl, rfl⟩

/-- An accept for slot 1 with a route, and a remote LNS to which a tunnel is being opened. -/
def forwardingAnswer : RadAnswer where
  socketIndex := 1
  id := 0
  authentic := true
  code := .accessAccept
  attributes := [.framedRoute 0x0A000000 24, .tunnelType]
  assignmentId := true
  remoteLns := some ⟨1, 0x0A000001, 1701⟩

/-- The tunnel to that remote LNS. -/
def openingTunnel : Tunnel :=
  { Tunnel.zero with state := .opening, isremotelns := 1, ip := 0x0A000001, port := 1701 }

theorem lacRadTunnel_opening (highest : st.highestTunnelid = 1)
    (tunnel : st.tunnel 1 = openingTunnel) : lacRadTunnel st ⟨1, 0x0A000001, 1701⟩ = 1 := by
  simp only [lacRadTunnel, highest, List.range'_one, List.find?_singleton, tunnel]
  rfl

/-- The accept frees slot 2 instead of slot 1. -/
theorem processrad_forwardingAnswer (slot : (st.radius 1).session = 5)
    (auth : (st.radius 1).state = .auth) (config : st.config.disableLacFunc = false)
    (highest : st.highestTunnelid = 1) (tunnel : st.tunnel 1 = openingTunnel) :
    ∃ st', st'.desk = st.desk ∧ processrad st false forwardingAnswer = radiusclear st' 2 5 := by
  have first : forwardingAnswer.slot = 1 := rfl
  let routed := st.setSession 5 fun session =>
    { session with route := putRoute session.route 0 ⟨0x0A000000, 24⟩ }
  have found : lacRadTunnel routed ⟨1, 0x0A000001, 1701⟩ = 1 := lacRadTunnel_opening highest tunnel
  have accepted : accessAccept st false 1 5 forwardingAnswer = clearForwarded routed 5 1 := by
    have applied : forwardingAnswer.attributes.foldl (applyAttribute 5) ⟨st, 0, 0, false⟩ =
      ⟨routed, 1, 0, true⟩ := rfl
    simp only [accessAccept, applied]
    have enabled : ¬ routed.config.disableLacFunc := ne_true_of_eq_false config
    rw [if_pos ⟨enabled, trivial⟩, if_neg (by decide)]
    have forwarded (puser : List UInt8) : lacRadForwardtoremotelns routed false 5
        forwardingAnswer.remoteLns puser = (routed, true) := by
      change lacCreateTunnelsession routed false (lacRadTunnel routed ⟨1, 0x0A000001, 1701⟩) 5
        ⟨1, 0x0A000001, 1701⟩ puser = _
      rw [found, lacCreateTunnelsession, if_neg Nat.one_ne_zero, if_neg]
      change (st.tunnel 1).state ≠ .opened
      rw [tunnel]
      decide
    rw [forwarded]
    exact if_pos rfl
  have cleared : (clearForwarded routed 5 1).2 = 2 := by
    simp only [clearForwarded]
    rw [if_pos]
    refine ⟨by decide, ?_⟩
    rw [setSession_frame Session.route rfl, setSession_same]
    exact List.cons_ne_nil (⟨0x0A000000, 24⟩ : Route) ((st.session 5).route.drop 1)
  refine ⟨(clearForwarded routed 5 1).1,
    (clearForwarded_desk ..).trans (setSession_desk rfl rfl rfl), ?_⟩
  simp only [processrad, first, slot, auth]
  rw [if_neg (by decide), if_neg (by decide), if_neg (by decide), if_neg (by decide),
    if_neg (by decide)]
  have accepts : forwardingAnswer.code = .accessAccept := rfl
  rw [if_pos accepts, accepted, cleared]

/-- Sessions 5 and 6 take the first two slots. -/
theorem radiusnew_both (unused : Unused st) (next : st.nextRadiusId = 0) :
    ((radiusnew (radiusnew st 5).1 6).1.radius 1).session = 5 ∧
      ((radiusnew (radiusnew st 5).1 6).1.radius 1).state = .wait ∧
      ((radiusnew (radiusnew st 5).1 6).1.sessLocal 6).radius = 2 ∧
      (radiusnew (radiusnew st 5).1 6).1.setting = st.setting := by
  have few : st.nextRadiusId + 2 < maxRadius := by
    rw [next]
    decide
  have free (r : Nat) : (st.radius r).state = .null := by
    rw [unused.radius]
    rfl
  obtain ⟨next', radius, locals, setting⟩ :=
    radiusnew_next st 5 (unused.slots 5) (Nat.lt_of_succ_lt few) (free _)
  obtain ⟨_, radius', locals', setting'⟩ := radiusnew_next (radiusnew st 5).1 6
    (by
      rw [locals, update_of_ne (by decide)]
      exact unused.slots 6)
    (by
      rw [next']
      exact few)
    (by
      rw [next', radius, update_of_ne (Nat.succ_ne_self _)]
      exact free _)
  rw [radius', next', next, radius, next, update_of_ne (by decide), update_self,
    locals', update_self, next', next]
  exact ⟨rfl, rfl, rfl, setting'.trans setting⟩

theorem radiussend_auth (st : State) (r : Nat) (config : st.config.numradiusservers = 1)
    (secret : st.config.radiussecret ≠ []) (waiting : (st.radius r).state = .wait) :
    ((radiussend st r .auth).radius r).session = (st.radius r).session ∧
      ((radiussend st r .auth).radius r).state = .auth ∧
      (radiussend st r .auth).sessLocal = st.sessLocal ∧
      (radiussend st r .auth).session = st.session ∧
      (radiussend st r .auth).setting = st.setting := by
  simp only [radiussend, radiussendOr, config, waiting]
  rw [if_neg Nat.one_ne_zero, if_neg secret, if_neg fun both => both.1 rfl, if_neg (by simp),
    if_neg (by rintro ⟨start, _⟩; cases start), emit_radius, setRadius_same]
  exact ⟨rfl, rfl, rfl, rfl, rfl⟩

/-- A table in which sessions 5 and 6 are open. -/
def forwardingTable : State :=
  { tableOf fun s => decide (s = 5 ∨ s = 6) with
    config := { Config.zero with numradiusservers := 1, radiussecret := [1] }
    tunnel := fun _ => openingTunnel
    highestTunnelid := 1 }

theorem forwardingTable_received : Received forwardingTable := by
  have received : Received (tableOf fun s => decide (s = 5 ∨ s = 6)) := by
    apply tableOf_received
    intro s used
    unfold maxSession
    rcases of_decide_eq_true used with rfl | rfl <;> omega
  exact ⟨received.inUse, received.clock⟩

theorem forwardingTable_unused : Unused forwardingTable := by
  refine ⟨fun _ => rfl, fun _ => rfl, fun s some => ?_⟩
  have unlinked (used : Bool) : (if used then { Session.zero with opened := 1, tunnel := 2 }
      else Session.zero).forwardtosession = 0 := by
    cases used <;> rfl
  exact (unlinked _).trans_ne some.symm

theorem forwardingTable_opened {s : Nat} (used : s = 5 ∨ s = 6) :
    ((takeSessions forwardingTable).session s).opened ≠ 0 := by
  rw [(takeSessions_strung forwardingTable_received).2]
  intro closed
  have unused := (tableOf_opened (fun s => decide (s = 5 ∨ s = 6)) s).mp closed
  exact absurd used (of_decide_eq_false unused)

/-- Session 5 takes a slot of a new master. -/
theorem slots_owned_radiusnew :
    Owned ((SlotAction.radiusnew 5).perform (takeSessions forwardingTable)) :=
  slots_owned (.step (.radiusnew 5)
    (.initial ⟨_, forwardingTable_received, forwardingTable_unused, rfl⟩) trivial
    ⟨rfl, forwardingTable_opened (Or.inl rfl)⟩)

/-- An answer for session 5, which has a route and is forwarded, frees the slot of session
6. -/
theorem misowned_reachable (started : slotSystem.Reachable st) (unused : Unused st)
    (opened : ∀ s, s = 5 ∨ s = 6 → (st.session s).opened ≠ 0)
    (setting : st.setting = forwardingTable.setting) (next : st.nextRadiusId = 0) :
    ∃ st', slotSystem.Reachable st' ∧ ¬ Owned st' := by
  have same := (radiusnew_opened (radiusnew st 5).1 6).trans (radiusnew_opened st 5)
  have both : slotSystem.Reachable (radiusnew (radiusnew st 5).1 6).1 := by
    refine .step (.radiusnew 6) (.step (.radiusnew 5) started trivial ⟨rfl, ?_⟩) trivial ⟨rfl, ?_⟩
    · exact opened 5 (Or.inl rfl)
    · change ((radiusnew st 5).1.session 6).opened ≠ 0
      rw [radiusnew_opened]
      exact opened 6 (Or.inr rfl)
  obtain ⟨session, waiting, slot, settled⟩ := radiusnew_both unused next
  generalize (radiusnew (radiusnew st 5).1 6).1 = taken at same both session waiting slot settled
  have config : taken.config = forwardingTable.config :=
    congrArg Prod.fst (settled.trans setting)
  obtain ⟨session', auth, locals, sessions, kept⟩ := radiussend_auth taken 1
    (by rw [config]; rfl) (by rw [config]; exact nofun) waiting
  have asked : slotSystem.Reachable (radiussend taken 1 .auth) :=
    .step (.radiussend 1 .auth) both trivial ⟨rfl, rfl⟩
  generalize radiussend taken 1 .auth = asking at session' auth locals sessions kept asked
  have whole := kept.trans (settled.trans setting)
  obtain ⟨st', desk, answered⟩ := processrad_forwardingAnswer (session'.trans session) auth
    (congrArg (fun setting => setting.1.disableLacFunc) whole)
    (congrArg (fun setting => setting.2.2) whole)
    (congrArg (fun setting => setting.2.1 1) whole)
  refine ⟨_, .step (.processrad false forwardingAnswer) asked trivial ⟨rfl, trivial⟩, ?_⟩
  change ¬ Owned (processrad asking false forwardingAnswer)
  rw [answered]
  intro owned
  have estate : (radiusclear st' 2 5).estate = st'.estate := radiusclear_estate 2 5
  have cleared : (radiusclear st' 2 5).session = st'.session := congrArg Estate.session estate
  have still : ((radiusclear st' 2 5).session 6).opened ≠ 0 := by
    rw [cleared, opened_of_desk desk, sessions, same]
    exact opened 6 (Or.inr rfl)
  have has : ((radiusclear st' 2 5).sessLocal 6).radius = 2 := by
    rw [radiusclear_otherSlot 2 (by omega), slot_of_desk desk, locals, slot]
  apply ((owned.owns 6 2 still (by omega)).mp has).1
  rw [radiusclear_radius, update_self]
  rfl

theorem slots_misowned : ¬ ∀ st, slotSystem.Reachable st → Owned st := by
  intro sound
  obtain ⟨setting, next⟩ := takeSessions_setting forwardingTable
  obtain ⟨st', reachable, misowned⟩ := misowned_reachable
    (.initial ⟨_, forwardingTable_received, forwardingTable_unused, rfl⟩)
    (takeSessions_unused forwardingTable_unused) (fun _ => forwardingTable_opened) setting next
  exact misowned (sound st' reachable)

end L2tpns.Server
