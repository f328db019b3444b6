import L2tpns.Server.Books

/-! # Stop requests of a session

A Stop request is sent from the slot of the session, if RADIUS is configured and the slot
is not in a Stop request already (`L2tpns.Server.startStop_cases`). `stops` and `saves`
count what was done for one session; shutting another one down does not change them
(`L2tpns.Server.sessionshutdown_other`), and killing the session adds nothing to its
shutdown (`L2tpns.Server.sessionkill_counts`).
-/

namespace L2tpns.Server

open State

variable {st : State} {s : Nat}

/-- A Stop request for a session. -/
def Effect.isStop (s : Nat) : Effect → Bool
  | radius .stop _ owner => owner = s
  | _ => false

/-- How many Stop requests were started for a session. -/
def stops (st : State) (s : Nat) : Nat := st.sent.countP (Effect.isStop s)

/-- How many times the counters of a session were saved. -/
def saves (st : State) (s : Nat) : Nat := st.shutAcct.countP fun record => record.1 = s

theorem stops_eq (st : State) (s : Nat) :
    stops st s = st.books.requests.countP (Effect.isStop s) := by
  rw [stops, State.books, List.countP_filter]
  apply List.countP_congr
  intro effect _
  cases effect <;> simp [Effect.isStop, Effect.isRequest]

variable {st' : State} {l r : Nat}

theorem counts_books (same : st'.books = st.books) (s : Nat) :
    stops st' s = stops st s ∧ saves st' s = saves st s := by
  constructor
  · rw [stops_eq, same, ← stops_eq]
  · exact congrArg (fun books : Books => books.shutAcct.countP fun record => record.1 = s) same

theorem stops_emit (effect : Effect) :
    stops (st.emit effect) s = stops st s + if effect.isStop s then 1 else 0 := by
  rw [stops, State.emit, List.countP_append, List.countP_singleton]
  rfl

theorem sessionclear_counts (st : State) (s x : Nat) :
    stops ((sessionclear st x).emit (.clusterSession x)) s = stops st s ∧
      saves ((sessionclear st x).emit (.clusterSession x)) s = saves st s :=
  ⟨stops_emit _, rfl⟩

/-- The session whose request a slot of `s` sends. -/
def slotOwner (st : State) (s : Nat) : Nat :=
  if (st.sessLocal s).radius = 0 then s else (st.radius (st.sessLocal s).radius).session

theorem getFreeRadius_null {count last : Nat} (found : (getFreeRadius st count last).2 ≠ 0) :
    (st.radius (getFreeRadius st count last).2).state = .null := by
  induction count generalizing last with
  | zero => exact absurd rfl found
  | succ count ih =>
      simp only [getFreeRadius] at found ⊢
      by_cases free : (st.radius (if maxRadius ≤ last + 1 then 1 else last + 1)).state = .null
      · rw [if_pos free]
        exact free
      · rw [if_neg free] at found ⊢
        exact ih found

theorem getFreeRadius_congr (radius : st'.radius = st.radius) (count last : Nat) :
    getFreeRadius st' count last = getFreeRadius st count last := by
  induction count generalizing last with
  | zero => rfl
  | succ count ih => rw [getFreeRadius, getFreeRadius, radius, ih]

theorem radiusnew_congr (radius : st'.radius = st.radius)
    (slot : (st'.sessLocal s).radius = (st.sessLocal s).radius)
    (next : st'.nextRadiusId = st.nextRadiusId) : (radiusnew st' s).2 = (radiusnew st s).2 := by
  simp only [radiusnew]
  rw [getFreeRadius_congr radius, slot, next]
  split_ifs <;> rfl

theorem radiusnew_cases (st : State) (s : Nat) :
    (st.sessLocal s).radius ≠ 0 ∧ radiusnew st s = (st, (st.sessLocal s).radius) ∨
      ((st.sessLocal s).radius = 0 ∧
          ∃ last, radiusnew st s = ({ st with nextRadiusId := last }, 0)) ∨
      (st.sessLocal s).radius = 0 ∧ ∃ last r, r ≠ 0 ∧ (st.radius r).state = .null ∧
        radiusnew st s = ((({ st with nextRadiusId := last }).setLocal s fun own =>
          { own with radius := r }).setRadius r fun _ =>
            { Radius.zero with session := s, state := .wait, retry := (st.time + 1200) % 2 ^ 32 },
          r) := by
  simp only [radiusnew]
  by_cases own : (st.sessLocal s).radius ≠ 0
  · exact Or.inl ⟨own, if_pos own⟩
  · have none := not_not.mp own
    rw [if_neg own]
    by_cases full : (getFreeRadius st maxRadius st.nextRadiusId).2 = 0
    · exact Or.inr (Or.inl ⟨none, _, if_pos full⟩)
    · exact Or.inr (Or.inr ⟨none, _, _, full, getFreeRadius_null full, if_neg full⟩)

theorem radiusnew_sent (st : State) (s : Nat) :
    (radiusnew st s).1.sent = st.sent ∧ (radiusnew st s).1.shutAcct = st.shutAcct := by
  simp only [radiusnew]
  split_ifs
  · exact ⟨rfl, rfl⟩
  · exact ⟨rfl, rfl⟩
  · exact ⟨rfl, rfl⟩

theorem radiusnew_slot (free : (radiusnew st s).2 ≠ 0) :
    ((radiusnew st s).1.sessLocal s).radius = (radiusnew st s).2 := by
  obtain ⟨_, same⟩ | ⟨_, _, full⟩ | ⟨_, _, _, _, _, taken⟩ := radiusnew_cases st s
  · rw [same]
  · rw [full] at free
    exact absurd rfl free
  · rw [taken]
    simp only [setRadius_sessLocal, setLocal_same]

theorem radiusnew_owner (free : (radiusnew st s).2 ≠ 0) :
    ((radiusnew st s).1.radius (radiusnew st s).2).session = slotOwner st s := by
  obtain ⟨own, same⟩ | ⟨_, _, full⟩ | ⟨none, _, _, _, _, taken⟩ := radiusnew_cases st s
  · rw [same, slotOwner, if_neg own]
  · rw [full] at free
    exact absurd rfl free
  · rw [taken, slotOwner, if_pos none]
    simp only [setRadius_same]

theorem radiusnew_otherSlot (other : l ≠ s) :
    ((radiusnew st s).1.sessLocal l).radius = (st.sessLocal l).radius := by
  obtain ⟨_, same⟩ | ⟨_, _, full⟩ | ⟨_, _, _, _, _, taken⟩ := radiusnew_cases st s
  · rw [same]
  · rw [full]
  · rw [taken, setRadius_sessLocal, setLocal_other other]

theorem radiusnew_stop (free : (radiusnew st s).2 ≠ 0)
    (stopping : ((radiusnew st s).1.radius (radiusnew st s).2).state = .stop) :
    (st.sessLocal s).radius ≠ 0 ∧ (st.radius (st.sessLocal s).radius).state = .stop := by
  obtain ⟨own, same⟩ | ⟨_, _, full⟩ | ⟨_, _, _, _, _, taken⟩ := radiusnew_cases st s
  · rw [same] at stopping
    exact ⟨own, stopping⟩
  · rw [full] at free
    exact absurd rfl free
  · rw [taken, setRadius_same] at stopping
    cases stopping

theorem radiusnew_inUse (s : Nat) (used : (st.radius r).state ≠ .null) :
    (radiusnew st s).1.radius r = st.radius r := by
  obtain ⟨_, same⟩ | ⟨_, _, full⟩ | ⟨_, _, r', _, null, taken⟩ := radiusnew_cases st s
  · rw [same]
  · rw [full]
  · rw [taken]
    have other : r ≠ r' := fun same => used (same ▸ null)
    simp only [setRadius_other other, setLocal_radius]

/-- What has to hold for a Stop request to be sent for the session. -/
structure StopDue (st : State) (s : Nat) : Prop where
  servers : st.config.numradiusservers ≠ 0
  secret : st.config.radiussecret ≠ []
  slot : (st.sessLocal s).radius ≠ 0 → (st.radius (st.sessLocal s).radius).session = s ∧
    (st.radius (st.sessLocal s).radius).state ≠ .stop

/-- The session has a slot that sends no Stop request any more. -/
structure Spent (st : State) (s : Nat) : Prop where
  slot : (st.sessLocal s).radius ≠ 0
  finished : st.config.numradiusservers = 0 ∨ st.config.radiussecret = [] ∨
    (st.radius (st.sessLocal s).radius).state = .stop

theorem Spent.saveCounters (spent : Spent st s) : Spent (saveCounters st s) s := by
  have config : (Server.saveCounters st s).config = st.config :=
    congrArg Estate.config (saveCounters_estate s)
  have frame : (Server.saveCounters st s).radius = st.radius ∧
      (Server.saveCounters st s).sessLocal = st.sessLocal := by
    rw [Server.saveCounters]
    split <;> exact ⟨rfl, rfl⟩
  refine ⟨frame.2 ▸ spent.slot, ?_⟩
  rw [config, frame.1, frame.2]
  exact spent.finished

theorem Spent.undue (spent : Spent st s) : ¬ StopDue st s := by
  intro due
  obtain none | none | stopping := spent.finished
  · exact due.servers none
  · exact due.secret none
  · exact (due.slot spent.slot).2 stopping

theorem radiussendAccounting_stop (accounting : st.config.radiusAccounting = true)
    (servers : st.config.numradiusservers ≠ 0) (secret : st.config.radiussecret ≠ [])
    (fresh : (st.radius r).state ≠ .stop) :
    radiussendAccounting st r .stop =
      (st.setRadius r fun slot =>
        { slot with state := .stop, retry := (backoff st 0 + 20) % 2 ^ 32, tries := 1 }).emit
        (.radius .stop r (st.radius r).session) := by
  have few : ¬ st.config.numradiusservers * 2 < (0 + 1) % 2 ^ 8 := by omega
  simp only [radiussendAccounting, radiussendOr]
  rw [if_neg servers, if_neg secret, if_neg fun off => off.2 accounting, if_neg fresh, if_neg few,
    if_neg fun start => RadiusState.noConfusion start.1]
  rfl

theorem radiussendAccounting_unconfigured (request : RadiusState)
    (none : st.config.numradiusservers = 0 ∨ st.config.radiussecret = []) :
    radiussendAccounting st r request = st := by
  simp only [radiussendAccounting, radiussendOr]
  split_ifs with servers secret
  · rfl
  · rfl
  all_goals exact (none.elim servers secret).elim

/-- No request is sent if RADIUS is not configured or a Stop is under way; else one is
sent for the session that the slot belongs to. -/
theorem startStop_cases (s : Nat) (reason : String) (termCause : Option TermCause)
    (accounting : st.config.radiusAccounting = true) :
    (∃ change : Radius → Radius,
      (∀ slot, (change slot).session = slot.session ∧ (change slot).state = slot.state) ∧
      ((radiusnew st s).2 = 0 ∨ st.config.numradiusservers = 0 ∨ st.config.radiussecret = [] ∨
        ((radiusnew st s).1.radius (radiusnew st s).2).state = .stop) ∧
      startStop st s reason termCause = (radiusnew st s).1.setRadius (radiusnew st s).2 change) ∨
    ∃ change : Radius → Radius,
      (∀ slot, (change slot).session = slot.session ∧ (change slot).state = .stop) ∧
      (radiusnew st s).2 ≠ 0 ∧ st.config.numradiusservers ≠ 0 ∧ st.config.radiussecret ≠ [] ∧
      ((radiusnew st s).1.radius (radiusnew st s).2).state ≠ .stop ∧
      startStop st s reason termCause =
        ((radiusnew st s).1.setRadius (radiusnew st s).2 change).emit
          (.radius .stop (radiusnew st s).2 (slotOwner st s)) := by
  have config : (radiusnew st s).1.config = st.config :=
    congrArg Estate.config (radiusnew_estate st s)
  simp only [startStop]
  by_cases full : (radiusnew st s).2 = 0
  · rw [if_pos full]
    exact Or.inl ⟨id, fun _ => ⟨rfl, rfl⟩, Or.inl full, setRadius_id.symm⟩
  · rw [if_neg full]
    by_cases stopping : ((radiusnew st s).1.radius (radiusnew st s).2).state = .stop
    · rw [if_pos stopping]
      exact Or.inl ⟨id, fun _ => ⟨rfl, rfl⟩, by simp only [stopping, or_true],
        setRadius_id.symm⟩
    · rw [if_neg stopping]
      rw [← config] at accounting ⊢
      let label (slot : Radius) : Radius := { slot with termCause := termCause, termMsg := reason }
      let labelled := (radiusnew st s).1.setRadius (radiusnew st s).2 label
      by_cases none : labelled.config.numradiusservers = 0 ∨ labelled.config.radiussecret = []
      · left
        exact ⟨label, fun slot => ⟨rfl, rfl⟩, Or.inr (none.imp_right Or.inl),
          radiussendAccounting_unconfigured .stop none⟩
      · right
        rw [not_or] at none
        have fresh : (labelled.radius (radiusnew st s).2).state ≠ .stop := by
          rw [setRadius_same]
          exact stopping
        have allowed : labelled.config.radiusAccounting = true := accounting
        have sent := radiussendAccounting_stop allowed none.1 none.2 fresh
        rw [setRadius_setRadius, setRadius_same] at sent
        rw [← radiusnew_owner full]
        let started (slot : Radius) : Radius :=
          { label slot with
            state := .stop, retry := (backoff labelled 0 + 20) % 2 ^ 32, tries := 1 }
        exact ⟨started, fun slot => ⟨rfl, rfl⟩, full, none.1, none.2, stopping, sent⟩

section Accounting

variable (s) (reason : String) (termCause : Option TermCause)
  (accounting : st.config.radiusAccounting = true)
include accounting

theorem startStop_shutAcct : (startStop st s reason termCause).shutAcct = st.shutAcct := by
  obtain ⟨_, _, _, kept⟩ | ⟨_, _, _, _, _, _, sent⟩ :=
    startStop_cases s reason termCause accounting
  · rw [kept]
    exact (radiusnew_sent st s).2
  · rw [sent]
    exact (radiusnew_sent st s).2

theorem startStop_sessLocal :
    (startStop st s reason termCause).sessLocal = (radiusnew st s).1.sessLocal := by
  obtain ⟨_, _, _, kept⟩ | ⟨_, _, _, _, _, _, sent⟩ :=
    startStop_cases s reason termCause accounting
  · rw [kept, setRadius_sessLocal]
  · rw [sent]
    rfl

theorem startStop_inUse {k : Nat} (used : (st.radius k).state ≠ .null) :
    ((startStop st s reason termCause).radius k).session = (st.radius k).session ∧
      ((startStop st s reason termCause).radius k).state ≠ .null := by
  have kept := radiusnew_inUse s used
  by_cases own : k = (radiusnew st s).2
  · rw [own] at kept used ⊢
    obtain ⟨_, change, _, same⟩ | ⟨_, change, _, _, _, _, sent⟩ :=
      startStop_cases s reason termCause accounting
    · rw [same, setRadius_same, (change _).1, (change _).2, kept]
      exact ⟨rfl, used⟩
    · rw [sent, emit_radius, setRadius_same, (change _).1, (change _).2, kept]
      exact ⟨rfl, nofun⟩
  · obtain ⟨_, _, _, same⟩ | ⟨_, _, _, _, _, _, sent⟩ :=
      startStop_cases s reason termCause accounting
    · rw [same, setRadius_other own, kept]
      exact ⟨rfl, used⟩
    · rw [sent, emit_radius, setRadius_other own, kept]
      exact ⟨rfl, used⟩

theorem startStop_other {l : Nat} (other : slotOwner st l ≠ s) :
    stops (startStop st l reason termCause) s = stops st s := by
  have unsent : stops (radiusnew st l).1 s = stops st s := by
    rw [stops, (radiusnew_sent st l).1, ← stops]
  obtain ⟨_, _, _, kept⟩ | ⟨_, _, _, _, _, _, sent⟩ :=
    startStop_cases l reason termCause accounting
  · rw [kept]
    exact unsent
  · rw [sent, stops_emit, Effect.isStop, decide_eq_false other, if_neg nofun]
    exact unsent

theorem startStop_due (free : (radiusnew st s).2 ≠ 0) (due : StopDue st s) :
    stops (startStop st s reason termCause) s = stops st s + 1 := by
  have unsent : stops (radiusnew st s).1 s = stops st s := by
    rw [stops, (radiusnew_sent st s).1, ← stops]
  obtain ⟨_, _, reasons, _⟩ | ⟨_, _, _, _, _, _, sent⟩ :=
    startStop_cases s reason termCause accounting
  · obtain none | none | none | stopping := reasons
    · exact absurd none free
    · exact absurd none due.servers
    · exact absurd none due.secret
    · obtain ⟨own, underWay⟩ := radiusnew_stop free stopping
      exact absurd underWay (due.slot own).2
  · have owner : slotOwner st s = s := by
      by_cases own : (st.sessLocal s).radius = 0
      · exact if_pos own
      · exact (if_neg own).trans (due.slot own).1
    rw [sent, stops_emit, owner, Effect.isStop, decide_eq_true rfl, if_pos rfl]
    exact congrArg (· + 1) unsent

theorem startStop_undue (undue : ¬ StopDue st s) :
    stops (startStop st s reason termCause) s = stops st s := by
  by_cases owner : slotOwner st s = s
  · obtain ⟨_, _, _, kept⟩ | ⟨_, _, _, servers, secret, state, _⟩ :=
      startStop_cases s reason termCause accounting
    · rw [kept, stops, setRadius_sent, (radiusnew_sent st s).1, ← stops]
    · apply absurd _ undue
      refine ⟨servers, secret, fun own => ?_⟩
      rw [slotOwner, if_neg own] at owner
      rw [radiusnew, if_pos own] at state
      exact ⟨owner, state⟩
  · exact startStop_other s reason termCause accounting owner

/-- After one attempt no other Stop request is due. -/
theorem startStop_spent (free : (radiusnew st s).2 ≠ 0) :
    Spent (startStop st s reason termCause) s := by
  have slot := radiusnew_slot free
  rw [← startStop_sessLocal s reason termCause accounting] at slot
  refine ⟨slot ▸ free, ?_⟩
  have config : (startStop st s reason termCause).config = st.config :=
    congrArg Estate.config (startStop_estate s reason termCause)
  rw [slot, config]
  obtain ⟨_, change, reasons, kept⟩ | ⟨_, change, _, _, _, _, sent⟩ :=
    startStop_cases s reason termCause accounting
  · obtain none | none | none | stopping := reasons
    · exact absurd none free
    · exact Or.inl none
    · exact Or.inr (Or.inl none)
    · rw [kept, setRadius_same, (change _).2]
      exact Or.inr (Or.inr stopping)
  · rw [sent, emit_radius, setRadius_same, (change _).2]
    exact Or.inr (Or.inr rfl)

end Accounting

theorem saveCounters_frame (st : State) (s : Nat) :
    (saveCounters st s).radius = st.radius ∧ (saveCounters st s).sessLocal = st.sessLocal ∧
      (saveCounters st s).sent = st.sent := by
  rw [saveCounters]
  split
  · exact ⟨rfl, rfl, rfl⟩
  · exact ⟨rfl, rfl, rfl⟩

/-- Counters are saved if there is a directory for them and the array has room. -/
def State.HasRoom (st : State) : Prop :=
  st.config.accountingDir ≠ [] ∧ st.shutAcct.length < maxShutAcct

theorem saveCounters_room (s : Nat) (room : st.HasRoom) :
    saves (saveCounters st s) s = saves st s + 1 ∧
      (saveCounters st s).shutAcct.length = st.shutAcct.length + 1 := by
  have saved : saveCounters st s = { st with shutAcct := st.shutAcct ++ [(s, st.session s)] } :=
    if_pos room
  rw [saved]
  constructor
  · rw [saves, List.countP_append, List.countP_singleton, decide_eq_true rfl, if_pos rfl, ← saves]
  · exact List.length_append

theorem saveCounters_full (full : ¬ st.HasRoom) : saveCounters st s = st :=
  if_neg full

theorem saveCounters_other (other : l ≠ s) : saves (saveCounters st l) s = saves st s := by
  rw [saveCounters]
  split
  · rw [saves, List.countP_append, List.countP_singleton, decide_eq_false other, if_neg (by simp),
      Nat.add_zero, ← saves]
  · rfl

theorem announceKill_frame (st : State) (s : Nat) :
    (announceKill st s).radius = st.radius ∧ (announceKill st s).sessLocal = st.sessLocal ∧
      (announceKill st s).shutAcct = st.shutAcct := by
  rw [announceKill]
  split
  · exact ⟨rfl, rfl, rfl⟩
  · exact ⟨rfl, rfl, rfl⟩

theorem announceKill_stops (st : State) (s t : Nat) :
    stops (announceKill st s) t = stops st t := by
  rw [announceKill]
  split
  · exact stops_emit _
  · rfl

theorem accounted_settled (reason : String) (termCause : Option TermCause)
    (settled : (st.session s).ip = 0 ∨ (st.session s).walledGarden = true ∨ dieAfter st s ≠ 0) :
    accounted st s reason termCause = announceKill st s := by
  rw [accounted, accountOnce, announceKill_session, Function.update_self, if_neg]
  rintro ⟨given, ungarden, alive⟩
  obtain none | garden | dying := settled
  · exact given none
  · exact ungarden garden
  · exact dying alive

theorem accounted_wrapped (reason : String) (termCause : Option TermCause)
    (given : (st.session s).ip ≠ 0) (ungarden : (st.session s).walledGarden = false)
    (wrapped : dieAfter st s = 0) :
    accounted st s reason termCause =
      saveCounters (startStop (st.emit (.killSession s)) s reason termCause) s := by
  obtain ⟨alive, wraps⟩ := dieAfter_zero.mp wrapped
  have announced : announceKill st s = st.emit (.killSession s) := by
    rw [announceKill, if_pos alive, wraps]
    apply setSession_eq
    exact congrArg (fun die => { st.session s with die := die }) alive.symm
  rw [accounted, accountOnce, if_pos, announced]
  rw [announceKill_session, Function.update_self, ungarden]
  exact ⟨given, by simp, wrapped⟩

theorem accounted_cases (st : State) (s : Nat) (reason : String) (termCause : Option TermCause) :
    accounted st s reason termCause = announceKill st s ∨
      accounted st s reason termCause =
        saveCounters (startStop (st.emit (.killSession s)) s reason termCause) s := by
  by_cases settled :
      (st.session s).ip = 0 ∨ (st.session s).walledGarden = true ∨ dieAfter st s ≠ 0
  · exact Or.inl (accounted_settled reason termCause settled)
  · rw [not_or, not_or, not_not, Bool.not_eq_true] at settled
    exact Or.inr (accounted_wrapped reason termCause settled.1 settled.2.1 settled.2.2)

theorem sessionshutdown_other (reason : String) (cdnResult cdnError : Nat)
    (termCause : Option TermCause) (accounting : st.config.radiusAccounting = true)
    (other : l ≠ s) (owner : slotOwner st l ≠ s) :
    stops (sessionshutdown st l reason cdnResult cdnError termCause) s = stops st s ∧
      saves (sessionshutdown st l reason cdnResult cdnError termCause) s = saves st s := by
  by_cases opened : (st.session l).opened = 0
  · rw [sessionshutdown, if_pos opened]
    exact ⟨rfl, rfl⟩
  · obtain ⟨stopped, saved⟩ := counts_books
      (sessionshutdown_books reason cdnResult cdnError termCause opened) s
    rw [stopped, saved]
    obtain settled | wrapped := accounted_cases st l reason termCause
    · rw [settled]
      exact ⟨announceKill_stops st l s, congrArg _ (announceKill_frame st l).2.2⟩
    · have allowed : (st.emit (.killSession l)).config.radiusAccounting = true := accounting
      rw [wrapped, saveCounters_other other, stops, (saveCounters_frame _ l).2.2, ← stops]
      constructor
      · exact (startStop_other s reason termCause allowed owner).trans (stops_emit _)
      · rw [saves, startStop_shutAcct l reason termCause allowed]
        rfl

/-- The slot of a linked session is not a slot of this session, and is in use. -/
structure Apart (st : State) (s l : Nat) : Prop where
  other : l ≠ s
  slot : (st.sessLocal l).radius ≠ 0 → (st.radius (st.sessLocal l).radius).session ≠ s ∧
    (st.radius (st.sessLocal l).radius).state ≠ .null

/-- A session that can be killed, while accounting is on. -/
structure Killable (st : State) (s : Nat) : Prop where
  accounting : st.config.radiusAccounting = true
  number : s ≠ 0
  next : (st.session s).next = 0
  linked : (st.session s).forwardtosession ≠ 0 → Apart st s (st.session s).forwardtosession

theorem Killable.of_books (same : st'.books = st.books) (killable : Killable st s) :
    Killable st' s := by
  have config : st'.config = st.config := congrArg Books.config same
  have standing : (st'.session s).standing = (st.session s).standing :=
    congrArg (fun books : Books => books.standing s) same
  have linked : (st'.session s).forwardtosession = (st.session s).forwardtosession :=
    congrArg Standing.forwardtosession standing
  have slot (l : Nat) : (st'.sessLocal l).radius = (st.sessLocal l).radius :=
    congrArg (fun books : Books => books.slot l) same
  have radius : st'.radius = st.radius := congrArg Books.radius same
  refine ⟨config ▸ killable.accounting, killable.number,
    (congrArg Standing.next standing).trans killable.next, fun link => ?_⟩
  rw [linked] at link ⊢
  have apart := killable.linked link
  exact ⟨apart.other, by rw [slot, radius]; exact apart.slot⟩

theorem Apart.startStop (reason : String) (termCause : Option TermCause)
    (accounting : st.config.radiusAccounting = true) (apart : Apart st s l) :
    Apart (startStop st s reason termCause) s l := by
  refine ⟨apart.other, ?_⟩
  have slot : ((radiusnew st s).1.sessLocal l).radius = (st.sessLocal l).radius :=
    radiusnew_otherSlot apart.other
  rw [startStop_sessLocal s reason termCause accounting, slot]
  intro own
  obtain ⟨owner, used⟩ := apart.slot own
  obtain ⟨session, state⟩ := startStop_inUse s reason termCause accounting used
  exact ⟨session ▸ owner, state⟩

theorem Killable.accounted (reason : String) (termCause : Option TermCause)
    (killable : Killable st s) : Killable (accounted st s reason termCause) s := by
  have session : (Server.accounted st s reason termCause).session s =
      { st.session s with die := dieAfter st s } := accounted_session s reason termCause
  have config : (Server.accounted st s reason termCause).config = st.config :=
    congrArg Estate.config (accounted_estate s reason termCause)
  refine ⟨config ▸ killable.accounting, killable.number, ?_, ?_⟩
  · rw [session]
    exact killable.next
  · rw [session]
    intro link
    have apart := killable.linked link
    obtain settled | wrapped := accounted_cases st s reason termCause
    · rw [settled]
      obtain ⟨radius, sessLocal, _⟩ := announceKill_frame st s
      exact ⟨apart.other, by rw [radius, sessLocal]; exact apart.slot⟩
    · rw [wrapped]
      obtain ⟨radius, sessLocal, _⟩ :=
        saveCounters_frame (Server.startStop (st.emit (.killSession s)) s reason termCause) s
      have told : Apart (st.emit (.killSession s)) s (st.session s).forwardtosession :=
        ⟨apart.other, apart.slot⟩
      have allowed : (st.emit (.killSession s)).config.radiusAccounting = true :=
        killable.accounting
      have started := told.startStop reason termCause allowed
      exact ⟨apart.other, by rw [radius, sessLocal]; exact started.slot⟩

theorem Killable.sessionshutdown (reason : String) (cdnResult cdnError : Nat)
    (termCause : Option TermCause) (killable : Killable st s) :
    Killable (sessionshutdown st s reason cdnResult cdnError termCause) s := by
  by_cases opened : (st.session s).opened = 0
  · rw [Server.sessionshutdown, if_pos opened]
    exact killable
  · exact (killable.accounted reason termCause).of_books
      (sessionshutdown_books reason cdnResult cdnError termCause opened)

theorem sessionclear_opened : ((sessionclear st s).session s).opened = 0 := by
  rw [sessionclear]
  refine (setSession_frame Session.opened rfl s).trans ?_
  rw [setSession_same, setLocal_session, setSession_same]
  rfl

theorem sessionkill_opened (reason : Option String) (termCause : Option TermCause)
    (next : (st.session s).next = 0) :
    ((sessionkill st s reason termCause).session s).opened = 0 := by
  simp only [sessionkill]
  by_cases opened : (st.session s).opened = 0
  · rw [if_pos opened]
    exact opened
  · rw [if_neg opened, if_neg (not_not.mpr next), emit_session]
    exact sessionclear_opened

theorem releaseSlot_counts (st : State) (s : Nat) :
    stops (releaseSlot st s) s = stops st s ∧ saves (releaseSlot st s) s = saves st s := by
  simp only [releaseSlot, radiusclear]
  split_ifs <;> exact ⟨rfl, rfl⟩

/-- The slot that is freed belongs to nobody. -/
theorem releaseSlot_owner (number : s ≠ 0) (apart : Apart st s l) :
    slotOwner (releaseSlot st s) l ≠ s := by
  have kept : slotOwner st l ≠ s := by
    rw [slotOwner]
    split
    · exact apart.other
    · rename_i own
      exact (apart.slot own).1
  rw [releaseSlot]
  split
  · exact kept
  · simp only [radiusclear]
    rw [if_neg number, slotOwner, setRadius_sessLocal, setLocal_other apart.other]
    split
    · exact apart.other
    · rename_i own
      by_cases same : (st.sessLocal l).radius = (st.sessLocal s).radius
      · rw [same, setRadius_same]
        exact number.symm
      · rw [setRadius_other same, setLocal_radius]
        exact (apart.slot own).1

/-- The counts after a kill are those after its shutdown. -/
theorem sessionkill_counts (reason : Option String) (termCause : Option TermCause)
    (killable : Killable st s) (opened : (st.session s).opened ≠ 0) :
    stops (sessionkill st s reason termCause) s = stops (shutForKill st s reason termCause) s ∧
      saves (sessionkill st s reason termCause) s =
        saves (shutForKill st s reason termCause) s := by
  have shut : Killable (shutForKill st s reason termCause) s := by
    rw [shutForKill]
    split
    · exact killable.sessionshutdown ..
    · exact killable
  simp only [sessionkill]
  rw [if_neg opened, if_neg (not_not.mpr killable.next)]
  generalize shutForKill st s reason termCause = st' at shut ⊢
  have linked : stops (shutLinked (releaseSlot st' s) s reason) s = stops (releaseSlot st' s) s ∧
      saves (shutLinked (releaseSlot st' s) s reason) s = saves (releaseSlot st' s) s := by
    simp only [shutLinked]
    split
    · rename_i link
      have estate : (releaseSlot st' s).estate = st'.estate := releaseSlot_estate s
      have session : (releaseSlot st' s).session = st'.session := congrArg Estate.session estate
      have config : (releaseSlot st' s).config = st'.config := congrArg Estate.config estate
      rw [session] at link ⊢
      have apart := shut.linked link.1
      exact sessionshutdown_other _ 3 0 _ (config ▸ shut.accounting) apart.other
        (releaseSlot_owner shut.number apart)
    · exact ⟨rfl, rfl⟩
  obtain ⟨stopped, saved⟩ := releaseSlot_counts st' s
  obtain ⟨clearStopped, clearSaved⟩ :=
    sessionclear_counts (shutLinked (releaseSlot st' s) s reason) s s
  exact ⟨clearStopped.trans (linked.1.trans stopped), clearSaved.trans (linked.2.trans saved)⟩

end L2tpns.Server
