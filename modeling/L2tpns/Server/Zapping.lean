import L2tpns.Server.Placing

/-! # Zapping the other sessions

A session that is set up kills the others that have its address, or shuts down those that
have its user. Nothing else happens to the table (`L2tpns.Server.zapSessions_spec`), as long as
the session is not told to kill itself. A cell that no zapped session maps stays as it is
(`L2tpns.Server.zapSessions_spares`).
-/

namespace L2tpns.Server

open Foundation

variable {st st' st'' : State} {s : Nat}

/-- The map names live sessions only, the free list has the free entries, and the numbers of
open sessions are below the highest. -/
structure Tenanted (st : State) : Prop where
  tenancy : st.tenancy.Sound
  strung : Strung st
  numbered : ∀ x, (st.session x).opened ≠ 0 → x ≤ st.highestSessionid

variable {i count : Nat} {ip : InAddr}

theorem Tenanted.sessionshutdown (tenanted : Tenanted st) (awake : st.Awake)
    {termCause : Option TermCause} (cause : termCause ≠ some .callback) (reason : String)
    (cdnResult cdnError : Nat) :
    Tenanted (sessionshutdown st i reason cdnResult cdnError termCause) := by
  have kept : Kept st (Server.sessionshutdown st i reason cdnResult cdnError termCause) :=
    sessionshutdown_kept ..
  refine ⟨tenanted.tenancy.sessionshutdown tenanted.strung awake cause .., ?_, fun x used => ?_⟩
  · exact (SameList.of_kept kept).strung tenanted.strung
  · rw [kept.highestSessionid]
    rw [kept.opened] at used
    exact tenanted.numbered x used

theorem Tenanted.sessionkill (tenanted : Tenanted st) (awake : st.Awake)
    {termCause : Option TermCause} (cause : termCause ≠ some .callback) (reason : Option String) :
    Tenanted (sessionkill st i reason termCause) := by
  have released := tenanted.strung.sessionkill i reason termCause
  refine ⟨tenanted.tenancy.sessionkill tenanted.strung awake cause reason, released.strung,
    fun x used => ?_⟩
  have highest : (Server.sessionkill st i reason termCause).highestSessionid =
      st.highestSessionid := by
    obtain ⟨same, _⟩ | ⟨_, _, _, kept, killed⟩ := sessionkill_cases st i reason termCause
    · rw [same]
    · rw [killed]
      exact kept.highestSessionid
  rw [highest]
  exact tenanted.numbered x (released.fewer x used)

/-- What zapping does to the sessions: that which is set up stays as it is, and entries that
are not in use afterwards were not touched, or cleared. -/
structure Zaps (s : Nat) (st st' : State) : Prop where
  own : st'.session s = st.session s
  entries : ∀ x, x ≠ 0 → (st'.session x).opened = 0 →
    st'.session x = st.session x ∨ ∃ next, st'.session x = { Session.zero with next := next }
  fewer : ∀ x, (st'.session x).opened ≠ 0 → (st.session x).opened ≠ 0
  places : ∀ x, x ≠ 0 → (st'.session x).ip = (st.session x).ip ∧
    (st'.session x).bundle = (st.session x).bundle ∨ (st'.session x).ip = 0
  users : ∀ x, (st'.session x).opened ≠ 0 → (st'.session x).user = (st.session x).user ∧
    (st'.session x).walledGarden = (st.session x).walledGarden ∧
      (st'.session x).bundle = (st.session x).bundle ∧
        ((st'.session x).ip = (st.session x).ip ∧ (st'.session x).route = (st.session x).route ∨
          (st'.session x).ip = 0 ∧ (st'.session x).route = [])
  dying : ∀ x, (st'.session x).opened ≠ 0 → (st'.session x).die = 0 → (st.session x).die = 0
  config : st'.config = st.config
  highest : st'.highestSessionid = st.highestSessionid
  time : st'.time = st.time

namespace Zaps

theorem refl (st : State) : Zaps s st st :=
  ⟨rfl, fun _ _ _ => .inl rfl, fun _ used => used, fun _ _ => .inl ⟨rfl, rfl⟩,
    fun _ _ => ⟨rfl, rfl, rfl, .inl ⟨rfl, rfl⟩⟩, fun _ _ die => die, rfl, rfl, rfl⟩

theorem trans (first : Zaps s st st') (second : Zaps s st' st'') : Zaps s st st'' := by
  refine ⟨second.own.trans first.own, fun x real closed => ?_,
    fun x used => first.fewer x (second.fewer x used), fun x real => ?_, fun x used => ?_,
    fun x used die => first.dying x (second.fewer x used) (second.dying x used die),
    second.config.trans first.config, second.highest.trans first.highest,
    second.time.trans first.time⟩
  · rcases second.entries x real closed with same | cleared
    · rw [same] at closed ⊢
      exact first.entries x real closed
    · exact .inr cleared
  · rcases second.places x real with ⟨ip, bundle⟩ | none
    · rw [ip, bundle]
      exact first.places x real
    · exact .inr none
  · obtain ⟨user, walled, bundle, route⟩ := second.users x used
    obtain ⟨user', walled', bundle', route'⟩ := first.users x (second.fewer x used)
    refine ⟨user.trans user', walled.trans walled', bundle.trans bundle', ?_⟩
    rcases route with ⟨ip, same⟩ | none
    · rw [ip, same]
      exact route'
    · exact .inr none

theorem of_estate (same : st'.estate = st.estate) : Zaps s st st' := by
  have session : st'.session = st.session := congrArg Estate.session same
  refine ⟨congrFun session s, fun x _ _ => .inl (congrFun session x), fun x used => ?_,
    fun x _ => ?_, fun x _ => ?_, fun x _ die => ?_, congrArg Estate.config same,
    congrArg Estate.highestSessionid same, congrArg Estate.time same⟩
  · rw [← session]
    exact used
  · rw [session]
    exact .inl ⟨rfl, rfl⟩
  · rw [session]
    exact ⟨rfl, rfl, rfl, .inl ⟨rfl, rfl⟩⟩
  · rw [← session]
    exact die

theorem emit (effect : Effect) : Zaps s st (st.emit effect) :=
  ⟨rfl, fun _ _ _ => .inl rfl, fun _ used => used, fun _ _ => .inl ⟨rfl, rfl⟩,
    fun _ _ => ⟨rfl, rfl, rfl, .inl ⟨rfl, rfl⟩⟩, fun _ _ die => die, rfl, rfl, rfl⟩

end Zaps

theorem sessionshutdown_zaps {i : Nat} (other : i ≠ s) (reason : String)
    (cdnResult cdnError : Nat) (termCause : Option TermCause) :
    Zaps s st (sessionshutdown st i reason cdnResult cdnError termCause) := by
  have only := @sessionshutdown_only st i reason cdnResult cdnError termCause
  have kept := @sessionshutdown_kept st i reason cdnResult cdnError termCause
  have time := sessionshutdown_time st i reason cdnResult cdnError termCause
  have held := sessionshutdown_holding st i reason cdnResult cdnError termCause
  have closes : (st.session i).opened = 0 →
      sessionshutdown st i reason cdnResult cdnError termCause = st := by
    intro closed
    rw [sessionshutdown, if_pos closed]
  have standing := @sessionshutdown_standing st i reason cdnResult cdnError termCause
  generalize sessionshutdown st i reason cdnResult cdnError termCause = shut
    at only kept time held closes standing ⊢
  refine ⟨only.others s other.symm, fun x _ closed => .inl ?_, fun x used => ?_, fun x _ => ?_,
    fun x _ => ?_, fun x used die => ?_, kept.config, kept.highestSessionid, time⟩
  · by_cases here : x = i
    · rw [kept.opened, here] at closed
      rw [closes closed]
    · exact only.others x here
  · rw [← kept.opened]
    exact used
  · rcases held x with same | taken
    · exact .inl ⟨congrArg Holding.ip same, congrArg Holding.bundle same⟩
    · exact .inr (congrArg Holding.ip taken :)
  · obtain ⟨_, standing⟩ := kept.standing x
    have walled : (shut.session x).walledGarden = (st.session x).walledGarden :=
      (congrArg Standing.walledGarden standing :)
    rcases held x with same | taken
    · exact ⟨congrArg Holding.user same, walled, congrArg Holding.bundle same,
        .inl ⟨congrArg Holding.ip same, congrArg Holding.route same⟩⟩
    · exact ⟨(congrArg Holding.user taken :), walled, (congrArg Holding.bundle taken :),
        .inr ⟨(congrArg Holding.ip taken :), (congrArg Holding.route taken :)⟩⟩
  · by_cases here : x = i
    · rw [here] at used die ⊢
      rw [kept.opened] at used
      have dies : (shut.session i).die = dieAfter st i := (congrArg Standing.die (standing used) :)
      rw [dies] at die
      exact (dieAfter_zero.mp die).1
    · rw [only.others x here] at die
      exact die

theorem sessionclear_zaps (other : i ≠ s) (some : i ≠ 0) (real : s ≠ 0) :
    Zaps s st (sessionclear st i) := by
  have session := sessionclear_session st some
  have own : (sessionclear st i).session i = { Session.zero with next := st.sessionfree } := by
    rw [session, Function.update_of_ne some, Function.update_self]
  have others : ∀ x, x ≠ 0 → x ≠ i → (sessionclear st i).session x = st.session x := by
    intro x nonzero here
    rw [session, Function.update_of_ne nonzero, Function.update_of_ne here]
  have head : (sessionclear st i).session 0 = { st.session 0 with next := i } := by
    rw [session, Function.update_self]
  refine ⟨others s real other.symm, fun x nonzero _ => ?_, fun x used => ?_, fun x nonzero => ?_,
    fun x used => ?_, fun x used die => ?_, rfl, rfl, rfl⟩
  · by_cases here : x = i
    · rw [here]
      exact .inr ⟨_, own⟩
    · exact .inl (others x nonzero here)
  · by_cases first : x = 0
    · rw [first, head] at used
      rw [first]
      exact used
    · by_cases here : x = i
      · rw [here, own] at used
        exact absurd rfl used
      · rw [others x first here] at used
        exact used
  · by_cases here : x = i
    · rw [here, own]
      exact .inr rfl
    · rw [others x nonzero here]
      exact .inl ⟨rfl, rfl⟩
  · by_cases first : x = 0
    · rw [first, head]
      exact ⟨rfl, rfl, rfl, .inl ⟨rfl, rfl⟩⟩
    · by_cases here : x = i
      · rw [here, own] at used
        exact absurd rfl used
      · rw [others x first here]
        exact ⟨rfl, rfl, rfl, .inl ⟨rfl, rfl⟩⟩
  · by_cases first : x = 0
    · rw [first, head] at die
      rw [first]
      exact die
    · by_cases here : x = i
      · rw [here, own] at used
        exact absurd rfl used
      · rw [others x first here] at die
        exact die

theorem sessionkill_zaps {i : Nat} (other : i ≠ s) (some : i ≠ 0) (real : s ≠ 0)
    (unlinked : (st.session s).forwardtosession = 0) (reason : Option String)
    (termCause : Option TermCause) : Zaps s st (sessionkill st i reason termCause) := by
  by_cases inactive : (st.session i).opened = 0 ∨ (st.session i).next ≠ 0
  · rw [sessionkill_same inactive]
    exact Zaps.refl st
  rw [not_or, not_not] at inactive
  rw [sessionkill_eq inactive.1 inactive.2]
  have shut : Zaps s st (shutForKill st i reason termCause) := by
    rw [shutForKill]
    split
    · exact sessionshutdown_zaps other ..
    · exact Zaps.refl st
  have released : Zaps s st (releaseSlot (shutForKill st i reason termCause) i) :=
    shut.trans (Zaps.of_estate (releaseSlot_estate i))
  generalize releaseSlot (shutForKill st i reason termCause) i = middle at released ⊢
  have linked : Zaps s middle (shutLinked middle i reason) := by
    simp only [shutLinked]
    split
    · rename_i links
      refine sessionshutdown_zaps ?_ ..
      intro same
      rw [same, released.own, unlinked] at links
      exact some links.2.symm
    · exact Zaps.refl _
  exact ((released.trans linked).trans (sessionclear_zaps other some real)).trans (Zaps.emit _)

theorem sessionkill_closed (strung : Strung st) (i : Nat) (reason : Option String)
    (termCause : Option TermCause) :
    ((sessionkill st i reason termCause).session i).opened = 0 := by
  by_cases closed : (st.session i).opened = 0
  · rw [sessionkill_same (.inl closed)]
    exact closed
  · have free := (strung.inUse i closed).2.2
    have some : i ≠ 0 := Nat.ne_of_gt (strung.inUse i closed).1
    rw [sessionkill_eq closed free, State.emit_session, sessionclear_session _ some,
      Function.update_of_ne some, Function.update_self]
    rfl

/-- Two sessions in one bundle. -/
def SameBundle (st : State) (s i : Nat) : Prop :=
  (st.session s).bundle ≠ 0 ∧ (st.session i).bundle ≠ 0 ∧
    (st.session s).bundle = (st.session i).bundle

/-- Two sessions have one user, and the second is shut down for it. -/
def SharesUser (st : State) (s i : Nat) : Prop :=
  ¬ st.config.allowDuplicateUsers ∧
    ¬ ((st.session s).walledGarden ∨ (st.session i).walledGarden) ∧
    ¬ st.config.guestUsers.any (sameName (st.session s).user) ∧
    sameName (st.session s).user (st.session i).user

/-- What zapping one session does when the session that is set up does not kill itself. -/
inductive Zap (st : State) (s : Nat) (ip : InAddr) (i : Nat) : State → Prop where
  | spares (spared : SameBundle st s i ∨ (st.session i).ip ≠ ip ∨ st.config.allowDuplicateIp) :
      Zap st s ip i st
  | kills (same : (st.session i).ip = ip) (apart : ¬ SameBundle st s i)
      (forbidden : st.config.allowDuplicateIp = false) :
      Zap st s ip i (sessionkill st i (some "Duplicate IP address") (some .adminReset))
  | shuts (other : (st.session i).ip ≠ ip) (apart : ¬ SameBundle st s i)
      (shares : SharesUser st s i) :
      Zap st s ip i (sessionshutdown st i "Duplicate session for users" 3 0 (some .adminReset))

theorem zapSession_spec
    (lives : st.config.suicideDuplicateIp → (st.session i).ip = ip → SameBundle st s i) :
    Zap st s ip i (zapSession st s ip i) := by
  simp only [zapSession]
  by_cases together : SameBundle st s i
  · rw [if_pos (show _ ∧ _ ∧ _ from together)]
    exact .spares (.inl together)
  rw [if_neg (show ¬ (_ ∧ _ ∧ _) from together)]
  by_cases same : ip = (st.session i).ip
  · have stays : ¬ st.config.suicideDuplicateIp := fun suicide =>
      together (lives suicide same.symm)
    rw [if_pos same, if_neg stays]
    by_cases allowed : st.config.allowDuplicateIp
    · rw [if_neg (not_not.mpr allowed)]
      exact .spares (.inr (.inr allowed))
    · rw [if_pos allowed]
      exact .kills same.symm together (Bool.eq_false_of_not_eq_true allowed)
  · have other : (st.session i).ip ≠ ip := fun equal => same equal.symm
    rw [if_neg same]
    split_ifs with users gardened guest shared
    · exact .spares (.inr (.inl other))
    · exact .spares (.inr (.inl other))
    · exact .spares (.inr (.inl other))
    · exact .shuts other together ⟨users, gardened, guest, shared⟩
    · exact .spares (.inr (.inl other))

/-- The session that is set up, and no other outside its bundle, has the address, or it is
not told to kill itself for that. -/
def Lives (st : State) (s : Nat) (ip : InAddr) (count : Nat) : Prop :=
  st.config.suicideDuplicateIp → ∀ i, i ≠ s → i ≠ 0 → i ≤ count → (st.session i).ip = ip →
    SameBundle st s i

theorem SameBundle.zaps (zaps : Zaps s st st') (real : i ≠ 0)
    (addressed : (st'.session i).ip ≠ 0) : SameBundle st' s i ↔ SameBundle st s i := by
  obtain ⟨_, bundle⟩ := (zaps.places i real).resolve_right addressed
  rw [SameBundle, SameBundle, zaps.own, bundle]

theorem Lives.zaps (lives : Lives st s ip count)
    (nonzero : ip ≠ 0) (zaps : Zaps s st st') : Lives st' s ip count := by
  intro suicide i other real within same
  rw [zaps.config] at suicide
  have addressed : (st'.session i).ip ≠ 0 := by
    rw [same]
    exact nonzero
  rw [SameBundle.zaps zaps real addressed]
  apply lives suicide i other real within
  rw [← ((zaps.places i real).resolve_right addressed).1, same]

/-- A session shares the address only in the bundle, or if that is allowed. -/
def NoTwin (st : State) (s : Nat) (ip : InAddr) (i : Nat) : Prop :=
  st.config.allowDuplicateIp = false → (st.session i).opened ≠ 0 → (st.session i).ip = ip →
    SameBundle st s i

theorem NoTwin.zaps (twinless : NoTwin st s ip i) (nonzero : ip ≠ 0)
    (real : i ≠ 0) (zaps : Zaps s st st') : NoTwin st' s ip i := by
  intro forbidden used same
  rw [zaps.config] at forbidden
  have addressed : (st'.session i).ip ≠ 0 := by
    rw [same]
    exact nonzero
  rw [SameBundle.zaps zaps real addressed]
  apply twinless forbidden (zaps.fewer i used)
  rw [← ((zaps.places i real).resolve_right addressed).1, same]

/-- What holds of a session that is set up while others are zapped. -/
structure Installing (st : State) (s : Nat) (ip : InAddr) (count : Nat) : Prop where
  tenanted : Tenanted st
  awake : st.Awake
  used : (st.session s).opened ≠ 0
  unlinked : (st.session s).forwardtosession = 0
  lives : Lives st s ip count

theorem Zap.step (zap : Zap st s ip i st')
    (installing : Installing st s ip count) (nonzero : ip ≠ 0) (other : i ≠ s) (some : i ≠ 0) :
    Zaps s st st' ∧ Installing st' s ip count ∧ NoTwin st' s ip i := by
  have real : s ≠ 0 := Nat.ne_of_gt (installing.tenanted.strung.inUse s installing.used).1
  have goesOn {st' : State} (zaps : Zaps s st st') (tenanted : Tenanted st') :
      Installing st' s ip count := by
    refine ⟨tenanted, ?_, ?_, ?_, installing.lives.zaps nonzero zaps⟩
    · rw [State.Awake, zaps.time]
      exact installing.awake
    · rw [zaps.own]
      exact installing.used
    · rw [zaps.own]
      exact installing.unlinked
  cases zap with
  | spares spared =>
      refine ⟨Zaps.refl st, installing, fun forbidden _ same => ?_⟩
      rcases spared with together | differs | allowed
      · exact together
      · exact absurd same differs
      · rw [forbidden] at allowed
        cases allowed
  | kills same apart forbidden =>
      have cause : Option.some TermCause.adminReset ≠ Option.some .callback := by decide
      have zaps := @sessionkill_zaps st s i other some real installing.unlinked
        (Option.some "Duplicate IP address") (Option.some .adminReset)
      have tenanted := installing.tenanted.sessionkill (i := i) installing.awake cause
        (Option.some "Duplicate IP address")
      refine ⟨zaps, goesOn zaps tenanted, ?_⟩
      intro _ used
      exact absurd (sessionkill_closed installing.tenanted.strung ..) used
  | shuts differs apart shares =>
      have cause : Option.some TermCause.adminReset ≠ Option.some .callback := by decide
      have zaps := @sessionshutdown_zaps st s i other "Duplicate session for users" 3 0
        (Option.some .adminReset)
      have tenanted := installing.tenanted.sessionshutdown (i := i) installing.awake cause
        "Duplicate session for users" 3 0
      refine ⟨zaps, goesOn zaps tenanted, ?_⟩
      intro _ _ same
      rcases zaps.places i some with ⟨ip, _⟩ | none
      · exact absurd (ip.symm.trans same) differs
      · exact absurd (same.symm.trans none) nonzero

/-- The loop leaves no session with the address, unless that is allowed. -/
theorem zapSessions_spec {n : Nat} (nonzero : ip ≠ 0) (count : Nat) :
    ∀ (i : Nat) (st : State), i ≠ 0 → i + count = n + 1 → Installing st s ip n →
      (∀ j, j ≠ 0 → j < i → j ≠ s → NoTwin st s ip j) →
      Zaps s st (zapSessions st s ip i count) ∧ Installing (zapSessions st s ip i count) s ip n ∧
        ∀ j, j ≠ 0 → j ≤ n → j ≠ s → NoTwin (zapSessions st s ip i count) s ip j := by
  induction count with
  | zero =>
      intro i st some ends installing before
      exact ⟨Zaps.refl st, installing, fun j real within => before j real (by omega)⟩
  | succ count ih =>
      intro i st some ends installing before
      rw [zapSessions]
      by_cases here : i = s
      · rw [if_pos here]
        refine ih (i + 1) st (Nat.succ_ne_zero i) (by omega) installing fun j real below other => ?_
        exact before j real (by omega) other
      · rw [if_neg here, if_neg installing.used]
        have zap : Zap st s ip i (zapSession st s ip i) :=
          zapSession_spec fun suicide => installing.lives suicide i here some (by omega)
        obtain ⟨zaps, next, apart⟩ := zap.step installing nonzero here some
        obtain ⟨zaps', rest⟩ := ih (i + 1) (zapSession st s ip i) (Nat.succ_ne_zero i) (by omega)
          next fun j real below other => by
            by_cases last : j = i
            · rw [last]
              exact apart
            · exact (before j real (by omega) other).zaps nonzero real zaps
        exact ⟨zaps.trans zaps', rest⟩

/-- No session is zapped that maps the address. -/
def Undisturbed (st : State) (s : Nat) (ip : InAddr) : Prop :=
  ∀ i, i ≠ s → (st.session i).opened ≠ 0 → ¬ SameBundle st s i →
    ((st.session i).ip = ip → st.config.allowDuplicateIp = true) ∧
      ((st.session i).ip ≠ ip → SharesUser st s i → ¬ Routed (st.session i).route ip)

theorem SharesUser.zaps (zaps : Zaps s st st') (opened : (st'.session i).opened ≠ 0)
    (shares : SharesUser st' s i) : SharesUser st s i := by
  obtain ⟨user, walled, _⟩ := zaps.users i opened
  rw [SharesUser, zaps.own, zaps.config, user, walled] at shares
  exact shares

theorem Undisturbed.zaps (undisturbed : Undisturbed st s ip) (nonzero : ip ≠ 0)
    (zaps : Zaps s st st') : Undisturbed st' s ip := by
  intro i other opened apart
  obtain ⟨_, _, bundle, routes⟩ := zaps.users i opened
  have outside : ¬ SameBundle st s i := by
    rw [SameBundle, zaps.own, bundle] at apart
    exact apart
  obtain ⟨twins, shares⟩ := undisturbed i other (zaps.fewer i opened) outside
  rcases routes with ⟨same, route⟩ | ⟨none, unrouted⟩
  · rw [same, route, zaps.config]
    exact ⟨twins, fun differs both => shares differs (SharesUser.zaps zaps opened both)⟩
  · rw [none, unrouted]
    refine ⟨fun zero => absurd zero.symm nonzero, fun _ _ routed => ?_⟩
    obtain ⟨_, member, _⟩ := routed
    exact List.not_mem_nil member

/-- Zapping one session leaves the cell of the address, and the links of the bundle. -/
theorem Zap.spares_cell (zap : Zap st s ip i st')
    (installing : Installing st s ip count) (undisturbed : Undisturbed st s ip) (other : i ≠ s) :
    lookupIpmap st'.ipHash ip = lookupIpmap st.ipHash ip ∧
      ∀ y, SameBundle st s y → st'.session y = st.session y := by
  cases zap with
  | spares => exact ⟨rfl, fun _ _ => rfl⟩
  | kills same apart forbidden =>
      have closed : (st.session i).opened = 0 := by
        by_contra opened
        have allowed := (undisturbed i other opened apart).1 same
        rw [forbidden] at allowed
        exact nomatch allowed
      rw [sessionkill_same (.inl closed)]
      exact ⟨rfl, fun _ _ => rfl⟩
  | shuts differs apart shares =>
      refine ⟨?_, fun y together => ?_⟩
      · by_cases closed : (st.session i).opened = 0
        · rw [sessionshutdown, if_pos closed]
        · exact installing.tenanted.tenancy.shutdown_spares installing.tenanted.strung
            ((undisturbed i other closed apart).2 differs shares) differs.symm ..
      · refine (sessionshutdown_only ..).others y ?_
        rintro rfl
        exact apart together

/-- The loop leaves an address alone that no zapped session maps. -/
theorem zapSessions_spares {n : Nat} (nonzero : ip ≠ 0) (count : Nat) :
    ∀ (i : Nat) (st : State), i ≠ 0 → i + count = n + 1 → Installing st s ip n →
      Undisturbed st s ip →
      lookupIpmap (zapSessions st s ip i count).ipHash ip = lookupIpmap st.ipHash ip ∧
        ∀ y, SameBundle st s y → (zapSessions st s ip i count).session y = st.session y := by
  induction count with
  | zero => exact fun _ _ _ _ _ _ => ⟨rfl, fun _ _ => rfl⟩
  | succ count ih =>
      intro i st some ends installing undisturbed
      rw [zapSessions]
      by_cases here : i = s
      · rw [if_pos here]
        exact ih (i + 1) st (Nat.succ_ne_zero i) (by omega) installing undisturbed
      · rw [if_neg here, if_neg installing.used]
        have zap : Zap st s ip i (zapSession st s ip i) :=
          zapSession_spec fun suicide => installing.lives suicide i here some (by omega)
        obtain ⟨zaps, next, _⟩ := zap.step installing nonzero here some
        obtain ⟨cell, links⟩ := zap.spares_cell installing undisturbed here
        obtain ⟨cell', links'⟩ := ih (i + 1) _ (Nat.succ_ne_zero i) (by omega) next
          (undisturbed.zaps nonzero zaps)
        refine ⟨cell'.trans cell, fun y together => (links' y ?_).trans (links y together)⟩
        rw [SameBundle, zaps.own, links y together]
        exact together

end L2tpns.Server
