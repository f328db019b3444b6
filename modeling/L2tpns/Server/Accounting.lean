import L2tpns.Server.StopRequest

/-! # Accounting for a session that is closed

A session is shut down and killed by any sequence of calls. The block of
`sessionshutdown` that accounts for the session asks for a time to die that is not noted
yet, but the function has just noted it. So the session is accounted for only if that
time comes out as 0, which takes a clock at one value of its 32 bits
(`L2tpns.Server.accounting_closes`).
-/

namespace L2tpns.Server

/-- What is done to a session. -/
inductive Action where
  | shutdown (reason : String) (cdnResult cdnError : Nat) (termCause : Option TermCause)
  | kill (reason : Option String) (termCause : Option TermCause)

/-- A call of `sessionshutdown` or `sessionkill`, and the time when it is made. -/
structure Call where
  time : Nat
  action : Action

def Action.perform (st : State) (s : Nat) : Action → State
  | shutdown reason cdnResult cdnError termCause =>
      sessionshutdown st s reason cdnResult cdnError termCause
  | kill reason termCause => sessionkill st s reason termCause

def State.atTime (st : State) (time : Nat) : State := { st with time := time }

def Call.perform (st : State) (s : Nat) (call : Call) : State :=
  call.action.perform (st.atTime call.time) s

/-- Make the calls for a session one after the other. -/
def close (st : State) (s : Nat) : List Call → State
  | [] => st
  | call :: calls => close (call.perform st s) s calls

/-- A session with an address, before it is shut down for the first time. -/
structure Live (st : State) (s : Nat) : Prop extends Killable st s where
  opened : (st.session s).opened ≠ 0
  alive : (st.session s).die = 0
  given : (st.session s).ip ≠ 0
  ungarden : (st.session s).walledGarden = false
  free : (radiusnew st s).2 ≠ 0

/-- One Stop request was started for the session, and its counters were saved once if
there was room. -/
structure Accounted (before after : State) (s : Nat) : Prop where
  stopped : stops after s = stops before s + 1
  saved : before.HasRoom → saves after s = saves before s + 1

/-- The time to die of a session that is shut down at this time is 0. -/
def Call.Wraps (call : Call) : Prop := (call.time + 150) % 2 ^ 32 = 0

instance (call : Call) : Decidable call.Wraps :=
  inferInstanceAs (Decidable (_ = _))

/-- The session is shut down but keeps its address for the one that has called back. -/
def Action.CallsBack : Action → Prop
  | shutdown _ _ _ termCause => termCause = some .callback
  | kill .. => False

variable {st : State} {s : Nat}

theorem Killable.atTime (time : Nat) (killable : Killable st s) :
    Killable (st.atTime time) s :=
  ⟨killable.accounting, killable.number, killable.next, fun link =>
    ⟨(killable.linked link).other, (killable.linked link).slot⟩⟩

theorem Spent.of_books {st' : State} (same : st'.books = st.books) (spent : Spent st s) :
    Spent st' s := by
  have config : st'.config = st.config := congrArg Books.config same
  have slot : (st'.sessLocal s).radius = (st.sessLocal s).radius :=
    congrArg (fun books : Books => books.slot s) same
  have radius : st'.radius = st.radius := congrArg Books.radius same
  refine ⟨slot ▸ spent.slot, ?_⟩
  rw [config, slot, radius]
  exact spent.finished

/-- No Stop request is started for the session any more. -/
def Quiet (st : State) (s : Nat) : Prop :=
  (st.session s).opened = 0 ∨
    Killable st s ∧ ((st.session s).ip = 0 ∨ (st.session s).die ≠ 0 ∨ Spent st s)

/-- The counters of the session are not saved any more. -/
def Settled (st : State) (s : Nat) : Prop :=
  (st.session s).opened = 0 ∨
    Killable st s ∧ ((st.session s).ip = 0 ∨ (st.session s).die ≠ 0 ∨ Spent st s ∧ ¬ st.HasRoom)

section Shutdown

variable (reason : String) (cdnResult cdnError : Nat) (termCause : Option TermCause)

theorem Spent.free (spent : Spent st s) : (radiusnew st s).2 ≠ 0 := by
  rw [radiusnew, if_pos spent.slot]
  exact spent.slot

theorem shutdown_settled (opened : (st.session s).opened ≠ 0)
    (settled : (st.session s).ip = 0 ∨ (st.session s).walledGarden = true ∨ dieAfter st s ≠ 0) :
    stops (sessionshutdown st s reason cdnResult cdnError termCause) s = stops st s ∧
      (sessionshutdown st s reason cdnResult cdnError termCause).shutAcct = st.shutAcct ∧
      (Spent st s → Spent (sessionshutdown st s reason cdnResult cdnError termCause) s) := by
  have books := sessionshutdown_books reason cdnResult cdnError termCause opened
  rw [accounted_settled reason termCause settled] at books
  obtain ⟨radius, sessLocal, shutAcct⟩ := announceKill_frame st s
  refine ⟨?_, (congrArg Books.shutAcct books).trans shutAcct, fun spent => ?_⟩
  · rw [(counts_books books s).1, announceKill_stops]
  · apply Spent.of_books books
    have config : (announceKill st s).config = st.config :=
      congrArg Estate.config (announceKill_estate s)
    refine ⟨sessLocal ▸ spent.slot, ?_⟩
    rw [config, sessLocal, radius]
    exact spent.finished

theorem shutdown_wrapped (opened : (st.session s).opened ≠ 0) (given : (st.session s).ip ≠ 0)
    (ungarden : (st.session s).walledGarden = false) (wrapped : dieAfter st s = 0) :
    (sessionshutdown st s reason cdnResult cdnError termCause).books =
      (saveCounters (startStop (st.emit (.killSession s)) s reason termCause) s).books := by
  rw [sessionshutdown_books reason cdnResult cdnError termCause opened,
    accounted_wrapped reason termCause given ungarden wrapped]

end Shutdown

section Wrapped

variable (s) (reason : String) (termCause : Option TermCause)
  (accounting : st.config.radiusAccounting = true) (free : (radiusnew st s).2 ≠ 0)
include accounting

theorem account_shutAcct :
    (startStop (st.emit (.killSession s)) s reason termCause).shutAcct = st.shutAcct := by
  have allowed : (st.emit (.killSession s)).config.radiusAccounting = true := accounting
  exact startStop_shutAcct s reason termCause allowed

theorem account_room :
    (startStop (st.emit (.killSession s)) s reason termCause).HasRoom ↔ st.HasRoom := by
  have config : (startStop (st.emit (.killSession s)) s reason termCause).config = st.config :=
    congrArg Estate.config (startStop_estate s reason termCause)
  rw [State.HasRoom, config, account_shutAcct s reason termCause accounting, ← State.HasRoom]

theorem account_undue (undue : ¬ StopDue st s) :
    stops (saveCounters (startStop (st.emit (.killSession s)) s reason termCause) s) s =
      stops st s := by
  have allowed : (st.emit (.killSession s)).config.radiusAccounting = true := accounting
  have kept : ¬ StopDue (st.emit (.killSession s)) s :=
    fun due => undue ⟨due.servers, due.secret, due.slot⟩
  rw [stops, (saveCounters_frame _ s).2.2, ← stops]
  exact (startStop_undue s reason termCause allowed kept).trans (stops_emit _)

include free

theorem account_due (due : StopDue st s) :
    stops (saveCounters (startStop (st.emit (.killSession s)) s reason termCause) s) s =
      stops st s + 1 := by
  have allowed : (st.emit (.killSession s)).config.radiusAccounting = true := accounting
  have slot : (radiusnew (st.emit (.killSession s)) s).2 ≠ 0 := by
    rw [radiusnew_congr (State.emit_radius _) rfl rfl]
    exact free
  have told : StopDue (st.emit (.killSession s)) s := ⟨due.servers, due.secret, due.slot⟩
  rw [stops, (saveCounters_frame _ s).2.2, ← stops]
  exact (startStop_due s reason termCause allowed slot told).trans
    (congrArg (· + 1) (stops_emit _))

theorem account_spent :
    Spent (saveCounters (startStop (st.emit (.killSession s)) s reason termCause) s) s := by
  have allowed : (st.emit (.killSession s)).config.radiusAccounting = true := accounting
  have slot : (radiusnew (st.emit (.killSession s)) s).2 ≠ 0 := by
    rw [radiusnew_congr (State.emit_radius _) rfl rfl]
    exact free
  exact (startStop_spent s reason termCause allowed slot).saveCounters

end Wrapped

theorem Action.counts (action : Action) (killable : Killable st s)
    (opened : (st.session s).opened ≠ 0) (alive : (st.session s).die = 0) :
    ∃ reason cdnResult cdnError termCause,
      (∀ shut, shut = sessionshutdown st s reason cdnResult cdnError termCause →
        stops (action.perform st s) s = stops shut s ∧
        saves (action.perform st s) s = saves shut s ∧
        (action.perform st s = shut ∧ (action.CallsBack ↔ termCause = some .callback) ∨
          ¬ action.CallsBack ∧ ((action.perform st s).session s).opened = 0)) := by
  cases action with
  | shutdown reason cdnResult cdnError termCause =>
      refine ⟨reason, cdnResult, cdnError, termCause, fun shut same => ?_⟩
      exact ⟨by rw [same]; rfl, by rw [same]; rfl, Or.inl ⟨same.symm, Iff.rfl⟩⟩
  | kill reason termCause =>
      refine ⟨reason.getD "Murdered!", if reason.isSome then 3 else 0, 0, termCause,
        fun shut same => ?_⟩
      obtain ⟨stopped, saved⟩ := sessionkill_counts reason termCause killable opened
      rw [shutForKill, if_pos alive, ← same] at stopped saved
      exact ⟨stopped, saved, Or.inr ⟨id, sessionkill_opened reason termCause killable.next⟩⟩

theorem Action.perform_closed (action : Action) (closed : (st.session s).opened = 0) :
    action.perform st s = st := by
  cases action with
  | shutdown | kill => exact if_pos closed

section Outcome

variable (reason : String) (cdnResult cdnError : Nat) (termCause : Option TermCause)

theorem shutdown_die (opened : (st.session s).opened ≠ 0) :
    ((sessionshutdown st s reason cdnResult cdnError termCause).session s).die = dieAfter st s :=
  congrArg Standing.die (sessionshutdown_standing reason cdnResult cdnError termCause opened)

theorem shutdown_ip_zero (opened : (st.session s).opened ≠ 0) (none : (st.session s).ip = 0) :
    ((sessionshutdown st s reason cdnResult cdnError termCause).session s).ip = 0 := by
  rw [sessionshutdown_ip reason cdnResult cdnError termCause opened, none, ite_self]

theorem shutdown_undue (killable : Killable st s) (opened : (st.session s).opened ≠ 0)
    (undue : ¬ StopDue st s) :
    stops (sessionshutdown st s reason cdnResult cdnError termCause) s = stops st s := by
  by_cases settled :
      (st.session s).ip = 0 ∨ (st.session s).walledGarden = true ∨ dieAfter st s ≠ 0
  · exact (shutdown_settled reason cdnResult cdnError termCause opened settled).1
  · rw [not_or, not_or, not_not, Bool.not_eq_true] at settled
    rw [(counts_books (shutdown_wrapped reason cdnResult cdnError termCause opened settled.1
      settled.2.1 settled.2.2) s).1]
    exact account_undue s reason termCause killable.accounting undue

theorem shutdown_spent (killable : Killable st s) (opened : (st.session s).opened ≠ 0)
    (spent : Spent st s) : Spent (sessionshutdown st s reason cdnResult cdnError termCause) s := by
  by_cases settled :
      (st.session s).ip = 0 ∨ (st.session s).walledGarden = true ∨ dieAfter st s ≠ 0
  · exact (shutdown_settled reason cdnResult cdnError termCause opened settled).2.2 spent
  · rw [not_or, not_or, not_not, Bool.not_eq_true] at settled
    exact (account_spent s reason termCause killable.accounting spent.free).of_books
      (shutdown_wrapped reason cdnResult cdnError termCause opened settled.1 settled.2.1
        settled.2.2)

theorem shutdown_saves (killable : Killable st s) (opened : (st.session s).opened ≠ 0) :
    (sessionshutdown st s reason cdnResult cdnError termCause).shutAcct = st.shutAcct ∨
      st.HasRoom ∧
        saves (sessionshutdown st s reason cdnResult cdnError termCause) s = saves st s + 1 := by
  by_cases settled :
      (st.session s).ip = 0 ∨ (st.session s).walledGarden = true ∨ dieAfter st s ≠ 0
  · exact Or.inl (shutdown_settled reason cdnResult cdnError termCause opened settled).2.1
  · rw [not_or, not_or, not_not, Bool.not_eq_true] at settled
    have books := shutdown_wrapped reason cdnResult cdnError termCause opened settled.1
      settled.2.1 settled.2.2
    have shutAcct := account_shutAcct s reason termCause killable.accounting
    by_cases room : st.HasRoom
    · right
      have started := (account_room s reason termCause killable.accounting).mpr room
      refine ⟨room, (counts_books books s).2.trans ?_⟩
      rw [(saveCounters_room s started).1, saves, shutAcct, ← saves]
    · left
      have full := mt (account_room s reason termCause killable.accounting).mp room
      rw [saveCounters_full full] at books
      exact (congrArg Books.shutAcct books).trans shutAcct

end Outcome

theorem shutdown_saves_le (killable : Killable st s) (reason : String) (cdnResult cdnError : Nat)
    (termCause : Option TermCause) (opened : (st.session s).opened ≠ 0) :
    saves st s ≤ saves (sessionshutdown st s reason cdnResult cdnError termCause) s := by
  obtain shutAcct | ⟨_, saved⟩ :=
    shutdown_saves reason cdnResult cdnError termCause killable opened
  · exact Nat.le_of_eq (congrArg (List.countP _) shutAcct).symm
  · rw [saved]
    exact Nat.le_succ _

/-- A quiet session stays quiet: no Stop request is started for it, and its saved counters
stay. -/
theorem Quiet.shutdown (reason : String) (cdnResult cdnError : Nat)
    (termCause : Option TermCause) (quiet : Quiet st s) :
    Quiet (sessionshutdown st s reason cdnResult cdnError termCause) s ∧
      stops (sessionshutdown st s reason cdnResult cdnError termCause) s = stops st s ∧
      saves st s ≤ saves (sessionshutdown st s reason cdnResult cdnError termCause) s := by
  by_cases opened : (st.session s).opened = 0
  · rw [sessionshutdown, if_pos opened]
    exact ⟨quiet, rfl, Nat.le_refl _⟩
  · obtain closed | ⟨killable, reasons⟩ := quiet
    · exact absurd closed opened
    · have kept := killable.sessionshutdown reason cdnResult cdnError termCause
      have saved := shutdown_saves_le killable reason cdnResult cdnError termCause opened
      obtain none | dying | spent := reasons
      · exact ⟨Or.inr ⟨kept, Or.inl (shutdown_ip_zero _ _ _ _ opened none)⟩,
          (shutdown_settled _ _ _ _ opened (Or.inl none)).1, saved⟩
      · have noted : dieAfter st s ≠ 0 := fun zero => dying (dieAfter_zero.mp zero).1
        refine ⟨Or.inr ⟨kept, Or.inr (Or.inl ?_)⟩,
          (shutdown_settled _ _ _ _ opened (Or.inr (Or.inr noted))).1, saved⟩
        rw [shutdown_die reason cdnResult cdnError termCause opened]
        exact noted
      · exact ⟨Or.inr ⟨kept, Or.inr (Or.inr (shutdown_spent _ _ _ _ killable opened spent))⟩,
          shutdown_undue _ _ _ _ killable opened spent.undue, saved⟩

theorem Settled.shutdown (reason : String) (cdnResult cdnError : Nat)
    (termCause : Option TermCause) (settled : Settled st s) :
    Settled (sessionshutdown st s reason cdnResult cdnError termCause) s ∧
      saves (sessionshutdown st s reason cdnResult cdnError termCause) s = saves st s := by
  by_cases opened : (st.session s).opened = 0
  · rw [sessionshutdown, if_pos opened]
    exact ⟨settled, rfl⟩
  · obtain closed | ⟨killable, reasons⟩ := settled
    · exact absurd closed opened
    · have kept := killable.sessionshutdown reason cdnResult cdnError termCause
      obtain none | dying | ⟨spent, full⟩ := reasons
      · exact ⟨Or.inr ⟨kept, Or.inl (shutdown_ip_zero _ _ _ _ opened none)⟩,
          congrArg _ (shutdown_settled _ _ _ _ opened (Or.inl none)).2.1⟩
      · have noted : dieAfter st s ≠ 0 := fun zero => dying (dieAfter_zero.mp zero).1
        refine ⟨Or.inr ⟨kept, Or.inr (Or.inl ?_)⟩,
          congrArg _ (shutdown_settled _ _ _ _ opened (Or.inr (Or.inr noted))).2.1⟩
        rw [shutdown_die reason cdnResult cdnError termCause opened]
        exact noted
      · obtain shutAcct | ⟨room, _⟩ :=
          shutdown_saves reason cdnResult cdnError termCause killable opened
        · have config : (sessionshutdown st s reason cdnResult cdnError termCause).config =
              st.config :=
            (congrArg Books.config
              (sessionshutdown_books reason cdnResult cdnError termCause opened)).trans
              (congrArg Estate.config (accounted_estate s reason termCause))
          refine ⟨Or.inr ⟨kept, Or.inr (Or.inr ⟨shutdown_spent _ _ _ _ killable opened spent,
            fun room => full ?_⟩)⟩, congrArg _ shutAcct⟩
          rw [State.HasRoom, shutAcct, config] at room
          exact room
        · exact absurd room full

theorem Quiet.atTime (time : Nat) (quiet : Quiet st s) : Quiet (st.atTime time) s := by
  obtain closed | ⟨killable, none | dying | spent⟩ := quiet
  · exact Or.inl closed
  · exact Or.inr ⟨killable.atTime time, Or.inl none⟩
  · exact Or.inr ⟨killable.atTime time, Or.inr (Or.inl dying)⟩
  · exact Or.inr ⟨killable.atTime time, Or.inr (Or.inr ⟨spent.slot, spent.finished⟩)⟩

theorem Settled.atTime (time : Nat) (settled : Settled st s) :
    Settled (st.atTime time) s := by
  obtain closed | ⟨killable, none | dying | ⟨spent, full⟩⟩ := settled
  · exact Or.inl closed
  · exact Or.inr ⟨killable.atTime time, Or.inl none⟩
  · exact Or.inr ⟨killable.atTime time, Or.inr (Or.inl dying)⟩
  · exact Or.inr ⟨killable.atTime time, Or.inr (Or.inr ⟨⟨spent.slot, spent.finished⟩, full⟩)⟩

theorem Quiet.act (quiet : Quiet st s) (action : Action) :
    Quiet (action.perform st s) s ∧ stops (action.perform st s) s = stops st s ∧
      saves st s ≤ saves (action.perform st s) s := by
  by_cases opened : (st.session s).opened = 0
  · rw [action.perform_closed opened]
    exact ⟨quiet, rfl, Nat.le_refl _⟩
  · obtain closed | ⟨killable, _⟩ := id quiet
    · exact absurd closed opened
    · cases action with
      | shutdown reason cdnResult cdnError termCause =>
          exact quiet.shutdown reason cdnResult cdnError termCause
      | kill reason termCause =>
          obtain ⟨stopped, saved⟩ := sessionkill_counts reason termCause killable opened
          refine ⟨Or.inl (sessionkill_opened reason termCause killable.next), ?_⟩
          change stops (sessionkill st s reason termCause) s = _ ∧
            _ ≤ saves (sessionkill st s reason termCause) s
          rw [stopped, saved, shutForKill]
          split
          · exact (quiet.shutdown ..).2
          · exact ⟨rfl, Nat.le_refl _⟩

theorem Quiet.perform (quiet : Quiet st s) (call : Call) :
    Quiet (call.perform st s) s ∧ stops (call.perform st s) s = stops st s ∧
      saves st s ≤ saves (call.perform st s) s :=
  (quiet.atTime call.time).act call.action

theorem Settled.act (settled : Settled st s) (action : Action) :
    Settled (action.perform st s) s ∧ saves (action.perform st s) s = saves st s := by
  by_cases opened : (st.session s).opened = 0
  · rw [action.perform_closed opened]
    exact ⟨settled, rfl⟩
  · obtain closed | ⟨killable, _⟩ := id settled
    · exact absurd closed opened
    · cases action with
      | shutdown reason cdnResult cdnError termCause =>
          exact settled.shutdown reason cdnResult cdnError termCause
      | kill reason termCause =>
          refine ⟨Or.inl (sessionkill_opened reason termCause killable.next), ?_⟩
          refine (sessionkill_counts reason termCause killable opened).2.trans ?_
          rw [shutForKill]
          split
          · exact (settled.shutdown ..).2
          · rfl

theorem Settled.perform (settled : Settled st s) (call : Call) :
    Settled (call.perform st s) s ∧ saves (call.perform st s) s = saves st s :=
  (settled.atTime call.time).act call.action

theorem Quiet.close (quiet : Quiet st s) (calls : List Call) :
    stops (close st s calls) s = stops st s ∧ saves st s ≤ saves (close st s calls) s := by
  induction calls generalizing st with
  | nil => exact ⟨rfl, Nat.le_refl _⟩
  | cons call calls ih =>
      obtain ⟨after, stopped, saved⟩ := quiet.perform call
      obtain ⟨stopped', saved'⟩ := ih after
      exact ⟨stopped'.trans stopped, saved.trans saved'⟩

theorem Settled.close (settled : Settled st s) (calls : List Call) :
    saves (close st s calls) s = saves st s := by
  induction calls generalizing st with
  | nil => rfl
  | cons call calls ih =>
      obtain ⟨after, counted⟩ := settled.perform call
      exact (ih after).trans counted

theorem Live.atTime (time : Nat) (live : Live st s) : Live (st.atTime time) s where
  toKillable := live.toKillable.atTime time
  opened := live.opened
  alive := live.alive
  given := live.given
  ungarden := live.ungarden
  free := by
    have same : (radiusnew (st.atTime time) s).2 = (radiusnew st s).2 := radiusnew_congr rfl rfl rfl
    rw [same]
    exact live.free

/-- The first call, unless the clock is at the one value: nothing is counted then or
later. -/
theorem Live.act_unwrapped (live : Live st s) (action : Action) (noted : dieAfter st s ≠ 0) :
    Quiet (action.perform st s) s ∧ Settled (action.perform st s) s ∧
      stops (action.perform st s) s = stops st s ∧ saves (action.perform st s) s = saves st s := by
  obtain ⟨reason, cdnResult, cdnError, termCause, outcome⟩ :=
    action.counts live.toKillable live.opened live.alive
  obtain ⟨stopped, saved, after⟩ := outcome _ rfl
  obtain ⟨stopped', shutAcct, _⟩ := shutdown_settled reason cdnResult cdnError termCause
    live.opened (Or.inr (Or.inr noted))
  rw [stopped, saved]
  obtain ⟨same, _⟩ | ⟨_, closed⟩ := after
  · have die := shutdown_die reason cdnResult cdnError termCause live.opened
    have kept := live.toKillable.sessionshutdown reason cdnResult cdnError termCause
    rw [same]
    exact ⟨Or.inr ⟨kept, Or.inr (Or.inl (die ▸ noted))⟩,
      Or.inr ⟨kept, Or.inr (Or.inl (die ▸ noted))⟩, stopped', congrArg _ shutAcct⟩
  · exact ⟨Or.inl closed, Or.inl closed, stopped', congrArg _ shutAcct⟩

/-- The first call when the time to die comes out as 0. -/
structure FirstWrapped (st after : State) (s : Nat) (action : Action) : Prop where
  quiet : Quiet after s
  due : StopDue st s → stops after s = stops st s + 1
  undue : ¬ StopDue st s → stops after s = stops st s
  saved : st.HasRoom → saves after s = saves st s + 1
  settled : ¬ action.CallsBack → Settled after s
  again : action.CallsBack → Live after s ∧ Spent after s ∧ after.config = st.config ∧
    (st.HasRoom → after.shutAcct.length = st.shutAcct.length + 1)

theorem Live.act_wrapped (live : Live st s) (action : Action) (wrapped : dieAfter st s = 0) :
    FirstWrapped st (action.perform st s) s action := by
  obtain ⟨reason, cdnResult, cdnError, termCause, outcome⟩ :=
    action.counts live.toKillable live.opened live.alive
  obtain ⟨stopped, saved, after⟩ := outcome _ rfl
  have books := shutdown_wrapped reason cdnResult cdnError termCause live.opened live.given
    live.ungarden wrapped
  have kept := live.toKillable.sessionshutdown reason cdnResult cdnError termCause
  have spent := (account_spent s reason termCause live.accounting live.free).of_books books
  have shutAcct := account_shutAcct s reason termCause live.accounting
  have room := account_room s reason termCause live.accounting
  refine ⟨?quiet, ?due, ?undue, ?saved, ?settled, ?again⟩
  case quiet =>
    obtain ⟨same, _⟩ | ⟨_, closed⟩ := after
    · exact same ▸ Or.inr ⟨kept, Or.inr (Or.inr spent)⟩
    · exact Or.inl closed
  case due =>
    intro due
    rw [stopped, (counts_books books s).1]
    exact account_due s reason termCause live.accounting live.free due
  case undue =>
    intro undue
    rw [stopped, (counts_books books s).1]
    exact account_undue s reason termCause live.accounting undue
  case saved =>
    intro hasRoom
    rw [saved, (counts_books books s).2, (saveCounters_room s (room.mpr hasRoom)).1, saves,
      shutAcct, ← saves]
  case settled =>
    intro stays
    obtain ⟨same, calledBack⟩ | ⟨_, closed⟩ := after
    · rw [same]
      refine Or.inr ⟨kept, Or.inl ?_⟩
      rw [sessionshutdown_ip reason cdnResult cdnError termCause live.opened,
        if_neg fun callback => stays (calledBack.mpr callback)]
    · exact Or.inl closed
  case again =>
    intro callsBack
    obtain ⟨same, calledBack⟩ | ⟨stays, _⟩ := after
    · have standing := sessionshutdown_standing reason cdnResult cdnError termCause live.opened
      rw [same]
      have opened :
          ((sessionshutdown st s reason cdnResult cdnError termCause).session s).opened =
            (st.session s).opened := congrArg Standing.opened standing
      have ip := sessionshutdown_ip reason cdnResult cdnError termCause live.opened
      rw [if_pos (calledBack.mp callsBack)] at ip
      refine ⟨⟨kept, opened.trans_ne live.opened, ?_, ip.trans_ne live.given, ?_, spent.free⟩,
        spent, ?_, fun hasRoom => ?_⟩
      · exact (congrArg Standing.die standing).trans wrapped
      · exact (congrArg Standing.walledGarden standing).trans live.ungarden
      · exact (congrArg Books.config
          (sessionshutdown_books reason cdnResult cdnError termCause live.opened)).trans
          (congrArg Estate.config (accounted_estate s reason termCause))
      · have length := (saveCounters_room s (room.mpr hasRoom)).2
        rw [shutAcct] at length
        exact (congrArg (fun books : Books => books.shutAcct.length) books).trans length
    · exact absurd callsBack stays

/-- A second call at the one value of the clock saves the counters again. -/
theorem Live.saved_again (live : Live st s) {first next : Call} (wrapped : first.Wraps)
    (callsBack : first.action.CallsBack) (wraps : next.Wraps)
    (directory : st.config.accountingDir ≠ []) (room : st.shutAcct.length + 1 < maxShutAcct) :
    saves (next.perform (first.perform st s) s) s = saves st s + 2 := by
  have timed := live.atTime first.time
  have once := timed.act_wrapped first.action (dieAfter_zero.mpr ⟨timed.alive, wrapped⟩)
  have hasRoom : (st.atTime first.time).HasRoom := ⟨directory, Nat.lt_of_succ_lt room⟩
  obtain ⟨after, _, config, length⟩ := once.again callsBack
  have timed' := after.atTime next.time
  have twice := timed'.act_wrapped next.action (dieAfter_zero.mpr ⟨timed'.alive, wraps⟩)
  have hasRoom' : ((first.perform st s).atTime next.time).HasRoom := by
    refine ⟨(congrArg Config.accountingDir config).trans_ne directory, ?_⟩
    exact (length hasRoom).trans_lt room
  exact (twice.saved hasRoom').trans (congrArg (· + 1) (once.saved hasRoom))

/-- The counters are saved a second time: the session calls back, and the next call is
also made at the one value of the clock while there is room. -/
structure SavedTwice (st : State) (first : Call) (rest : List Call) : Prop where
  callsBack : first.action.CallsBack
  wraps : ∃ next ∈ rest.head?, next.Wraps
  directory : st.config.accountingDir ≠ []
  room : st.shutAcct.length + 1 < maxShutAcct

theorem Live.saved_once (live : Live st s) {first : Call} {rest : List Call}
    (wrapped : first.Wraps) (hasRoom : st.HasRoom) (once : ¬ SavedTwice st first rest) :
    saves (close st s (first :: rest)) s = saves st s + 1 := by
  have timed := live.atTime first.time
  have outcome := timed.act_wrapped first.action (dieAfter_zero.mpr ⟨timed.alive, wrapped⟩)
  have saved : saves (first.perform st s) s = saves st s + 1 := outcome.saved hasRoom
  rw [close, ← saved]
  by_cases callsBack : first.action.CallsBack
  · obtain ⟨after, spent, config, length⟩ := outcome.again callsBack
    by_cases room : st.shutAcct.length + 1 < maxShutAcct
    · cases rest with
      | nil => rfl
      | cons next rest =>
          have unwrapped : ¬ next.Wraps :=
            fun wraps => once ⟨callsBack, ⟨next, rfl, wraps⟩, hasRoom.1, room⟩
          have timed' := after.atTime next.time
          obtain ⟨_, settled, _, kept⟩ := timed'.act_unwrapped next.action
            fun zero => unwrapped (dieAfter_zero.mp zero).2
          exact (settled.close rest).trans kept
    · apply Settled.close
      refine Or.inr ⟨after.toKillable, Or.inr (Or.inr ⟨spent, fun full => room ?_⟩)⟩
      exact (length hasRoom).symm.trans_lt full.2
  · exact (outcome.settled callsBack).close rest

theorem Live.unwrapped_unaccounted (live : Live st s) {first : Call} (unwrapped : ¬ first.Wraps)
    (rest : List Call) : ¬ Accounted st (close st s (first :: rest)) s := by
  intro accounted
  have timed := live.atTime first.time
  obtain ⟨quiet, _, stopped, _⟩ := timed.act_unwrapped first.action
    fun zero => unwrapped (dieAfter_zero.mp zero).2
  have none : stops (close st s (first :: rest)) s = stops st s :=
    (quiet.close rest).1.trans stopped
  have := accounted.stopped
  omega

/-- Accounting closes a session exactly if it is first shut down at the one value of the
clock, a Stop request is due then, and the counters are not saved twice. -/
theorem accounting_closes (live : Live st s) (first : Call) (rest : List Call) :
    Accounted st (close st s (first :: rest)) s ↔
      first.Wraps ∧ StopDue st s ∧ ¬ SavedTwice st first rest := by
  have timed := live.atTime first.time
  constructor
  · intro accounted
    have wrapped : first.Wraps :=
      by_contra fun unwrapped => live.unwrapped_unaccounted unwrapped rest accounted
    have outcome := timed.act_wrapped first.action (dieAfter_zero.mpr ⟨timed.alive, wrapped⟩)
    refine ⟨wrapped, ?_, fun twice => ?_⟩
    · by_contra undue
      have none : stops (close st s (first :: rest)) s = stops st s :=
        (outcome.quiet.close rest).1.trans
          (outcome.undue fun due => undue ⟨due.servers, due.secret, due.slot⟩)
      have := accounted.stopped
      omega
    · obtain ⟨next, isNext, wraps⟩ := twice.wraps
      cases rest with
      | nil => cases isNext
      | cons head rest =>
          cases isNext
          have again := live.saved_again wrapped twice.callsBack wraps twice.directory twice.room
          have monotone : saves (next.perform (first.perform st s) s) s ≤
              saves (close st s (first :: next :: rest)) s :=
            ((outcome.quiet.perform next).1.close rest).2
          have saved := accounted.saved ⟨twice.directory, Nat.lt_of_succ_lt twice.room⟩
          omega
  · intro ⟨wrapped, due, once⟩
    have outcome := timed.act_wrapped first.action (dieAfter_zero.mpr ⟨timed.alive, wrapped⟩)
    refine ⟨?_, fun hasRoom => live.saved_once wrapped hasRoom once⟩
    exact (outcome.quiet.close rest).1.trans (outcome.due ⟨due.servers, due.secret, due.slot⟩)

/-- Accounting is on, with a server, a secret and a directory; session 1 has an address. -/
def oneLive : State :=
  { State.start { Config.zero with
      radiusAccounting := true, numradiusservers := 1, radiussecret := [0x73]
      accountingDir := [0x2f] } (fun _ => .zero) 1 1000 100 with
    session := fun s =>
      if s = 1 then { Session.zero with opened := 100, ip := 0x0A000001, ipPoolIndex := -1 }
      else .zero }

theorem oneLive_live : Live oneLive 1 where
  accounting := rfl
  number := by decide
  next := rfl
  linked := fun link => absurd rfl link
  opened := by decide
  alive := rfl
  given := by decide
  ungarden := rfl
  free := by decide

/-- The session is shut down and killed 15 seconds later. -/
theorem accounting_closes_oneLive :
    ¬ Accounted oneLive (close oneLive 1 [⟨1000, .shutdown "logout" 3 0 none⟩,
      ⟨1150, .kill (some "Expired") none⟩]) 1 := by
  rw [accounting_closes oneLive_live]
  intro closed
  exact absurd closed.1 (by decide)

/-- An ordinary shutdown starts no Stop request and saves no counters. -/
theorem oneLive_unaccounted :
    Live oneLive 1 ∧ ¬ Accounted oneLive (close oneLive 1 [⟨1000, .shutdown "logout" 3 0 none⟩,
      ⟨1150, .kill (some "Expired") none⟩]) 1 :=
  ⟨oneLive_live, oneLive_live.unwrapped_unaccounted (by decide) _⟩

end L2tpns.Server
