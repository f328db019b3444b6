import L2tpns.Foundation.FreeList
import L2tpns.Foundation.TransitionSystem
import L2tpns.Server.Books
import L2tpns.Server.Sessions

/-! # The list of free sessions

Three functions take a session from the list and `sessionclear` puts one back. The list
visits exactly the sessions that are not in use as long as the two functions that do not
look whether it is empty find a session on it (`L2tpns.Server.freeList_sound`). With
every session open, the next PADR opens entry 0 (`L2tpns.Server.freeList_exhausted`).
-/

namespace L2tpns.Server

open Foundation Function

/-- A session that is not in use; entry 0 is no session. -/
def State.IsFree (st : State) (s : Nat) : Prop :=
  1 ≤ s ∧ s < maxSession ∧ (st.session s).opened = 0

/-- The list visits exactly the free sessions, and an open session is on no list. -/
structure Strung (st : State) : Prop where
  list : FreeList (fun s => (st.session s).next) st.IsFree
  inUse : ∀ s, (st.session s).opened ≠ 0 → 1 ≤ s ∧ s < maxSession ∧ (st.session s).next = 0
  clock : st.timeNow ≠ 0

structure SameList (st st' : State) : Prop where
  next : ∀ s, (st'.session s).next = (st.session s).next
  opened : ∀ s, (st'.session s).opened = (st.session s).opened
  timeNow : st'.timeNow = st.timeNow

namespace SameList

variable {st st' st'' : State}

theorem refl (st : State) : SameList st st := ⟨fun _ => rfl, fun _ => rfl, rfl⟩

theorem trans (first : SameList st st') (second : SameList st' st'') : SameList st st'' :=
  ⟨fun s => (second.next s).trans (first.next s),
    fun s => (second.opened s).trans (first.opened s), second.timeNow.trans first.timeNow⟩

theorem of_kept (kept : Kept st st') : SameList st st' :=
  ⟨kept.next, kept.opened, kept.timeNow⟩

theorem of_session (same : st'.session = st.session) (clock : st'.timeNow = st.timeNow) :
    SameList st st' :=
  ⟨fun s => by rw [same], fun s => by rw [same], clock⟩

theorem emit (st : State) (effect : Effect) : SameList st (st.emit effect) :=
  ⟨fun _ => rfl, fun _ => rfl, rfl⟩

theorem setLocal (st : State) (s : Nat) (change : SessLocal → SessLocal) :
    SameList st (st.setLocal s change) :=
  ⟨fun _ => rfl, fun _ => rfl, rfl⟩

theorem setSession {s : Nat} {change : Session → Session}
    (next : (change (st.session s)).next = (st.session s).next)
    (opened : (change (st.session s)).opened = (st.session s).opened) :
    SameList st (st.setSession s change) :=
  ⟨State.setSession_frame Session.next next, State.setSession_frame Session.opened opened, rfl⟩

theorem strung (same : SameList st st') (strung : Strung st) : Strung st' := by
  have clock := same.timeNow
  refine ⟨strung.list.congr (same.next 0) (fun s _ => same.next s) fun s => ?_, fun s => ?_,
    clock.symm ▸ strung.clock⟩
  · rw [State.IsFree, State.IsFree, same.opened]
  · rw [same.opened, same.next]
    exact strung.inUse s

end SameList

variable {st : State}

theorem Strung.of_session {st' : State} (strung : Strung st) (same : st'.session = st.session)
    (clock : st'.timeNow = st.timeNow) : Strung st' :=
  (SameList.of_session same clock).strung strung

theorem sessionclear_session (st : State) {s : Nat} (nonzero : s ≠ 0) :
    (sessionclear st s).session =
      update
        (update st.session s { Session.zero with next := st.sessionfree }) 0
        { st.session 0 with next := s } := by
  have head : ((st.setSession s fun _ => .zero).setLocal s fun _ => .zero).sessionfree =
      st.sessionfree := by
    rw [State.sessionfree, State.setLocal_session, State.setSession_other nonzero.symm]
    rfl
  simp only [sessionclear, head]
  simp only [State.setSession, State.setLocal, update_self, update_idem,
    update_of_ne nonzero.symm]

/-- The record of a session that is opened. -/
def opening (st : State) (t : Nat) : Session :=
  { Session.zero with
    opened := st.timeNow
    tunnel := t
    lastPacket := st.timeNow
    ppp := { Ppp.zero with phase := .establish, lcp := .starting } }

theorem openSession_session (st : State) (s t : Nat) :
    (openSession st s t).session =
      update
        (update st.session 0 { st.session 0 with next := (st.session s).next }) s
        (opening st t) := by
  simp only [openSession, State.setSession, update_self, update_idem]
  rfl

theorem Strung.unopened (strung : Strung st) : (st.session 0).opened = 0 := by
  by_contra used
  exact absurd (strung.inUse 0 used).1 (by decide)

/-- A session that is cleared is put back. -/
theorem Strung.sessionclear {s : Nat} (strung : Strung st) (opened : (st.session s).opened ≠ 0) :
    Strung (sessionclear st s) := by
  obtain ⟨positive, bound, _⟩ := strung.inUse s opened
  have nonzero : s ≠ 0 := Nat.ne_of_gt positive
  have session := sessionclear_session st nonzero
  have cleared : (Server.sessionclear st s).session s =
      { Session.zero with next := st.sessionfree } := by
    rw [session, update_of_ne nonzero, update_self]
  have head : (Server.sessionclear st s).session 0 = { st.session 0 with next := s } := by
    rw [session, update_self]
  have other (s' : Nat) (first : s' ≠ 0) (rest : s' ≠ s) :
      (Server.sessionclear st s).session s' = st.session s' := by
    rw [session, update_of_ne first, update_of_ne rest]
  refine ⟨?_, fun s' used => ?_, strung.clock⟩
  · apply strung.list.give nonzero (fun free => opened free.2.2) (congrArg Session.next head)
      (congrArg Session.next cleared)
    · intro s' free
      apply congrArg Session.next (other s' (strung.list.free_nonzero free) _)
      rintro rfl
      exact opened free.2.2
    · intro s'
      rw [State.IsFree, State.IsFree]
      by_cases same : s' = s
      · rw [same, cleared]
        exact ⟨fun _ => Or.inr rfl, fun _ => ⟨positive, bound, rfl⟩⟩
      · rw [or_iff_left same]
        by_cases first : s' = 0
        · rw [first, head]
        · rw [other s' first same]
  · by_cases same : s' = s
    · rw [same, cleared] at used
      exact absurd rfl used
    · by_cases first : s' = 0
      · rw [first, head] at used
        exact absurd strung.unopened used
      · rw [other s' first same] at used ⊢
        exact strung.inUse s' used

/-- The list is kept, and no session is opened. -/
structure Released (st st' : State) : Prop where
  strung : Strung st'
  fewer : ∀ s, (st'.session s).opened ≠ 0 → (st.session s).opened ≠ 0

namespace Released

variable {st' st'' : State}

theorem of_sameList (strung : Strung st) (same : SameList st st') : Released st st' :=
  ⟨same.strung strung, fun s used => same.opened s ▸ used⟩

theorem trans (first : Released st st') (second : Released st' st'') : Released st st'' :=
  ⟨second.strung, fun s used => first.fewer s (second.fewer s used)⟩

theorem andThen (released : Released st st') (same : SameList st' st'') : Released st st'' :=
  released.trans (of_sameList released.strung same)

end Released

/-- A kill keeps the list. -/
theorem Strung.sessionkill (strung : Strung st) (s : Nat) (reason : Option String)
    (termCause : Option TermCause) : Released st (sessionkill st s reason termCause) := by
  obtain ⟨same, _⟩ | ⟨opened, _, st', kept, killed⟩ := sessionkill_cases st s reason termCause
  · rw [same]
    exact Released.of_sameList strung (SameList.refl st)
  · rw [killed]
    have shut := Released.of_sameList strung (SameList.of_kept kept)
    have used : (st'.session s).opened ≠ 0 := kept.opened s ▸ opened
    have nonzero : s ≠ 0 := Nat.ne_of_gt (shut.strung.inUse s used).1
    have cleared : Released st' (Server.sessionclear st' s) := by
      refine ⟨shut.strung.sessionclear used, fun s' used' => ?_⟩
      rw [sessionclear_session _ nonzero, update_apply, update_apply] at used'
      split_ifs at used' with first same
      · exact absurd shut.strung.unopened used'
      · exact absurd rfl used'
      · exact used'
    exact shut.trans (cleared.andThen (SameList.emit _ _))

/-- The head of the list is opened. -/
theorem Strung.openSession (strung : Strung st) (t : Nat) (nonempty : st.sessionfree ≠ 0) :
    Strung (openSession st st.sessionfree t) := by
  have free : st.IsFree st.sessionfree := strung.list.head_free nonempty
  have session := openSession_session st st.sessionfree t
  have taken : (Server.openSession st st.sessionfree t).session st.sessionfree = opening st t := by
    rw [session, update_self]
  have head : (Server.openSession st st.sessionfree t).session 0 =
      { st.session 0 with next := (st.session st.sessionfree).next } := by
    rw [session, update_of_ne nonempty.symm, update_self]
  have other (s' : Nat) (first : s' ≠ 0) (rest : s' ≠ st.sessionfree) :
      (Server.openSession st st.sessionfree t).session s' = st.session s' := by
    rw [session, update_of_ne rest, update_of_ne first]
  refine ⟨?_, fun s' used => ?_, strung.clock⟩
  · apply strung.list.take nonempty (congrArg Session.next head)
    · exact fun s' isFree rest =>
        congrArg Session.next (other s' (strung.list.free_nonzero isFree) rest)
    · intro s'
      rw [State.IsFree, State.IsFree]
      by_cases same : s' = st.sessionfree
      · rw [same, taken]
        exact ⟨fun isFree => absurd isFree.2.2 strung.clock, fun both => absurd rfl both.2⟩
      · rw [and_iff_left (show s' ≠ (st.session 0).next from same)]
        by_cases first : s' = 0
        · rw [first, head]
        · rw [other s' first same]
  · by_cases same : s' = st.sessionfree
    · rw [same, taken]
      exact ⟨free.1, free.2.1, rfl⟩
    · by_cases first : s' = 0
      · rw [first, head] at used
        exact absurd strung.unopened used
      · rw [other s' first same] at used ⊢
        exact strung.inUse s' used

theorem Strung.killSessions (t : Nat) (reason : Option String) (count : Nat) :
    ∀ (s : Nat) (st : State), Strung st → Released st (killSessions st t reason s count) := by
  induction count with
  | zero => exact fun _ st strung => Released.of_sameList strung (SameList.refl st)
  | succ count ih =>
      intro s st strung
      have killed : Released st (if (st.session s).tunnel = t then
          Server.sessionkill st s reason (some .adminReset) else st) := by
        split
        · exact strung.sessionkill ..
        · exact Released.of_sameList strung (SameList.refl st)
      exact killed.trans (ih (s + 1) _ killed.strung)

theorem shutSessions_kept (t : Nat) (reason : String) (count : Nat) :
    ∀ (s : Nat) (st : State), Kept st (shutSessions st t reason s count) := by
  induction count with
  | zero => exact fun _ st => Kept.refl st
  | succ count ih =>
      intro s st
      refine Kept.trans ?_ (ih (s + 1) _)
      split
      · exact sessionshutdown_kept ..
      · exact Kept.refl st

theorem tunnelclear_sameList (st : State) (t : Nat) : SameList st (tunnelclear st t) := by
  rw [tunnelclear]
  split
  · exact SameList.refl st
  · exact SameList.of_session rfl rfl

theorem Strung.tunnelkill (strung : Strung st) (t : Nat) (reason : String) :
    Released st (tunnelkill st t reason) := by
  have dying : SameList st (st.setTunnel t fun tunnel => { tunnel with state := .die }) :=
    SameList.of_session rfl rfl
  have start := Released.of_sameList strung dying
  simp only [Server.tunnelkill]
  refine ((start.trans ?_).andThen (tunnelclear_sameList _ t)).andThen (SameList.emit _ _)
  exact Strung.killSessions t _ _ 1 _ start.strung

theorem Strung.tunnelshutdown (strung : Strung st) (t : Nat) (reason : String) (result : Nat) :
    Released st (tunnelshutdown st t reason result) := by
  simp only [Server.tunnelshutdown]
  by_cases never : (st.tunnel t).last = 0 ∨ (st.tunnel t).far = 0 ∨ (st.tunnel t).state = .free
  · rw [if_pos never]
    exact strung.tunnelkill t reason
  · rw [if_neg never]
    have shut := SameList.of_kept (shutSessions_kept t reason st.highestSessionid 1 st)
    apply Released.of_sameList strung
    split
    · exact shut.trans (SameList.of_session rfl rfl)
    · exact shut.trans (SameList.of_session rfl rfl)

variable {t lastFree i : Nat} {start : State} (used : Nat → Bool) (s : Nat)

theorem changeState_sameList (fsm : Fsm) (new : FsmState) :
    SameList st (changeState st s fsm new) := by
  rw [changeState]
  split
  · exact SameList.refl st
  · refine SameList.trans ?_ (SameList.emit _ _)
    refine SameList.trans ?_ (SameList.setSession (by rfl) (by rfl))
    split
    · exact SameList.of_session rfl rfl
    · exact SameList.refl st

theorem sendlcp_sameList : SameList st (sendlcp st s) :=
  SameList.of_session rfl rfl

/-- A table that a new master finds: what is open is a session, and not on a list. -/
structure Received (st : State) : Prop where
  inUse : ∀ s, (st.session s).opened ≠ 0 → 1 ≤ s ∧ s < maxSession ∧ (st.session s).next = 0
  clock : st.timeNow ≠ 0

/-- The list is strung up to `i`: it ends in `lastFree`, and the same sessions are open as
before. -/
structure Stringing (start st : State) (lastFree i : Nat) : Prop where
  chain : ∃ items, Chain (fun s => (st.session s).next) 0 items ∧ (0 :: items).Nodup ∧
    (0 :: items).getLast (List.cons_ne_nil _ _) = lastFree ∧
    ∀ s, s ∈ items ↔ 1 ≤ s ∧ s < i ∧ (start.session s).opened = 0
  opened : ∀ s, (st.session s).opened = (start.session s).opened
  inUse : ∀ s, (start.session s).opened ≠ 0 → (st.session s).next = (start.session s).next
  clock : st.timeNow = start.timeNow

theorem Stringing.congr {st st' : State}
    (stringing : Stringing start st lastFree i) (same : SameList st st') :
    Stringing start st' lastFree i := by
  obtain ⟨items, chain, rest⟩ := stringing.chain
  refine ⟨⟨items, chain.congr (same.next 0) fun s _ => same.next s, rest⟩, fun s => ?_,
    fun s used => ?_, same.timeNow.trans stringing.clock⟩
  · rw [same.opened, stringing.opened]
  · rw [same.next, stringing.inUse s used]

theorem throttleSession_sameList (rateIn rateOut : Int) :
    SameList st (throttleSession st s rateIn rateOut) := by
  rw [throttleSession]
  split
  · exact SameList.refl st
  · exact (SameList.setSession (by rfl) (by rfl)).trans (SameList.emit _ _)

theorem resetSession_sameList (st : State) (i : Nat) : SameList st (resetSession st i) := by
  refine ⟨fun s => ?_, fun s => ?_, rfl⟩
  · rw [resetSession, State.setLocal_session]
    exact State.setSession_frame Session.next (by rfl) s
  · rw [resetSession, State.setLocal_session]
    exact State.setSession_frame Session.opened (by rfl) s

theorem restringSession_used (lastFree : Nat) (used : (st.session i).opened ≠ 0) :
    SameList st (restringSession st lastFree i).1 ∧
      (restringSession st lastFree i).2 = lastFree := by
  simp only [restringSession]
  rw [if_neg used]
  refine ⟨?_, rfl⟩
  have reset := resetSession_sameList st i
  refine ⟨fun s => ?_, fun s => ?_, (throttleSession_sameList ..).timeNow.trans reset.timeNow⟩
  · exact ((throttleSession_sameList ..).next s).trans (reset.next s)
  · exact ((throttleSession_sameList ..).opened s).trans (reset.opened s)

theorem restringSession_free (free : (st.session i).opened = 0) (later : lastFree ≠ i) :
    (restringSession st lastFree i).1.session =
        update
          (update st.session lastFree { st.session lastFree with next := i }) i .zero ∧
      (restringSession st lastFree i).2 = i := by
  simp only [restringSession]
  rw [if_pos free]
  refine ⟨?_, rfl⟩
  simp only [State.setSession, update_of_ne later]
  rw [Function.update_comm later.symm, update_idem, update_self]
  rfl

theorem Stringing.restringSession {st : State}
    (received : Received start) (stringing : Stringing start st lastFree i) (positive : 1 ≤ i) :
    Stringing start (restringSession st lastFree i).1 (restringSession st lastFree i).2
      (i + 1) := by
  obtain ⟨items, chain, nodup, last, complete⟩ := stringing.chain
  by_cases used : (st.session i).opened = 0
  · have unopened : (start.session i).opened = 0 := (stringing.opened i).symm.trans used
    have before : ∀ s ∈ 0 :: items, s < i := by
      intro s member
      cases member with
      | head => exact positive
      | tail _ later => exact ((complete s).mp later).2.1
    have lastMember : lastFree ∈ 0 :: items := last ▸ List.getLast_mem _
    have later : lastFree ≠ i := (before lastFree lastMember).ne
    obtain ⟨session, next⟩ := restringSession_free used later
    have clock : (Server.restringSession st lastFree i).1.timeNow = st.timeNow := by
      rw [Server.restringSession, if_pos used]
      rfl
    have strung (s : Nat) : ((Server.restringSession st lastFree i).1.session s).next =
        if s = i then 0 else if s = lastFree then i else (st.session s).next := by
      rw [session, update_apply, update_apply]
      split_ifs <;> rfl
    refine ⟨⟨items ++ [i], ?_, ?_, ?_, fun s => ?_⟩, fun s => ?_, fun s open' => ?_, ?_⟩
    · apply chain.append
      · rw [last, strung, if_neg later, if_pos rfl]
      · omega
      · rw [strung, if_pos rfl]
      · exact nodup
      · intro s member notLast
        rw [last] at notLast
        rw [strung, if_neg (before s member).ne, if_neg notLast]
    · rw [← List.cons_append]
      apply List.nodup_append.mpr
      refine ⟨nodup, List.nodup_singleton i, fun s member s' single => ?_⟩
      rw [List.mem_singleton.mp single]
      exact (before s member).ne
    · rw [next]
      exact List.getLast_append_singleton (0 :: items)
    · rw [List.mem_append, List.mem_singleton, complete]
      constructor
      · rintro (⟨low, high, free⟩ | rfl)
        · exact ⟨low, by omega, free⟩
        · exact ⟨positive, by omega, unopened⟩
      · rintro ⟨low, high, free⟩
        by_cases same : s = i
        · exact Or.inr same
        · exact Or.inl ⟨low, by omega, free⟩
    · rw [session, update_apply, update_apply]
      split_ifs with same isLast
      · rw [same, unopened]
        rfl
      · rw [isLast]
        exact stringing.opened lastFree
      · exact stringing.opened s
    · have other : s ≠ i := fun same => open' (same ▸ unopened)
      rw [strung, if_neg other]
      split
      · rename_i same
        rw [same] at open'
        rcases List.mem_cons.mp lastMember with first | listed
        · exact absurd (received.inUse lastFree open').1 (by rw [first]; decide)
        · exact absurd ((complete lastFree).mp listed).2.2 open'
      · exact stringing.inUse s open'
    · exact clock.trans stringing.clock
  · obtain ⟨same, next⟩ := restringSession_used lastFree used
    have stays := stringing.congr same
    obtain ⟨items, chain, nodup, last, complete⟩ := stays.chain
    rw [next]
    refine ⟨⟨items, chain, nodup, last, fun s => (complete s).trans ?_⟩, stays.opened,
      stays.inUse, stays.clock⟩
    constructor
    · exact fun ⟨low, high, free⟩ => ⟨low, by omega, free⟩
    · rintro ⟨low, high, free⟩
      refine ⟨low, lt_of_le_of_ne (by omega) ?_, free⟩
      rintro rfl
      exact used ((stringing.opened s).trans free)

theorem Stringing.restringSessions (received : Received start) (count : Nat) :
    ∀ (st : State) (lastFree i : Nat), 1 ≤ i → Stringing start st lastFree i →
      Stringing start (restringSessions st lastFree i count).1
        (restringSessions st lastFree i count).2 (i + count) := by
  induction count with
  | zero => exact fun _ _ _ _ stringing => stringing
  | succ count ih =>
      intro st lastFree i positive stringing
      rw [← Nat.add_assoc, Nat.add_right_comm]
      exact ih _ _ (i + 1) (Nat.succ_pos i) (stringing.restringSession received positive)

/-- The first entry starts the list. -/
theorem restringSession_zero (received : Received st) :
    Stringing st (restringSession st 0 0).1 (restringSession st 0 0).2 1 := by
  have unopened : (st.session 0).opened = 0 := by
    by_contra used
    exact absurd (received.inUse 0 used).1 (by decide)
  have session : (restringSession st 0 0).1.session = update st.session 0 .zero := by
    simp only [restringSession]
    rw [if_pos unopened]
    simp only [State.setSession, update_self, update_idem]
    rfl
  have last : (restringSession st 0 0).2 = 0 := by
    rw [restringSession, if_pos unopened]
  have clock : (restringSession st 0 0).1.timeNow = st.timeNow := by
    rw [restringSession, if_pos unopened]
    rfl
  refine ⟨⟨[], ?_, List.nodup_singleton 0, last.symm, fun s => ?_⟩, fun s => ?_,
    fun s used => ?_, clock⟩
  · change ((restringSession st 0 0).1.session 0).next = 0
    rw [session, update_self]
    rfl
  · constructor
    · exact fun member => absurd member List.not_mem_nil
    · exact fun range => absurd range.1 (Nat.not_le_of_lt range.2.1)
  · rw [session, update_apply]
    split
    · rename_i same
      rw [same, unopened]
      rfl
    · rfl
  · have other : s ≠ 0 := fun same => used (same ▸ unopened)
    rw [session, update_of_ne other]

theorem restringSessions_zero (received : Received st) (count : Nat) :
    Stringing st (restringSessions st 0 0 (count + 1)).1 (restringSessions st 0 0 (count + 1)).2
      (count + 1) := by
  have strung := Stringing.restringSessions received count _ _ 1 le_rfl
    (restringSession_zero received)
  rw [Nat.add_comm 1] at strung
  exact strung

theorem Stringing.strung (received : Received start)
    (stringing : Stringing start st lastFree maxSession) :
    Strung (st.setSession lastFree fun session => { session with next := 0 }) ∧
      ∀ s, ((st.setSession lastFree fun session => { session with next := 0 }).session s).opened =
        (start.session s).opened := by
  obtain ⟨items, chain, nodup, last, complete⟩ := stringing.chain
  have ends : (st.session lastFree).next = 0 := last ▸ chain.last
  rw [State.setSession_eq (by rw [← ends])]
  refine ⟨⟨⟨items, chain, (List.nodup_cons.mp nodup).2, fun s => ?_⟩, fun s used => ?_,
    stringing.clock ▸ received.clock⟩, stringing.opened⟩
  · rw [complete, State.IsFree, stringing.opened]
  · rw [stringing.opened] at used
    rw [stringing.inUse s used]
    exact received.inUse s used

theorem takeSessions_strung (received : Received st) :
    Strung (takeSessions st) ∧
      ∀ s, ((takeSessions st).session s).opened = (st.session s).opened := by
  have received' : Received { st with highestSessionid := 0, lastId := 0 } :=
    ⟨received.inUse, received.clock⟩
  have size : 1 ≤ maxSession := by unfold maxSession; omega
  have stringing := restringSessions_zero received' (maxSession - 1)
  rw [Nat.sub_add_cancel size] at stringing
  have strung := stringing.strung received'
  simp only [takeSessions]
  exact strung

/-- Whether forwarding over tunnel `t` opens a session. -/
def lacOpens (st : State) (quitting : Bool) (t : Nat) : Prop :=
  t ≠ 0 ∧ (st.tunnel t).state = .opened ∧ ¬ quitting

instance (st : State) (quitting : Bool) (t : Nat) : Decidable (lacOpens st quitting t) :=
  inferInstanceAs (Decidable (_ ∧ _ ∧ _))

/-- What takes sessions and puts them back. -/
inductive ListAction where
  | icrq (quitting : Bool) (t asession : Nat)
  | padr
  | lac (quitting : Bool) (t s : Nat) (lns : RemoteLns) (puser : List UInt8)
  | shutdown (s : Nat) (reason : String) (cdnResult cdnError : Nat)
      (termCause : Option TermCause)
  | kill (s : Nat) (reason : Option String) (termCause : Option TermCause)
  | tick (time timeNow : Nat)

/-- The tables after an action. -/
def ListAction.perform (st : State) : ListAction → State
  | .icrq quitting t asession => Server.icrq st quitting t asession
  | .padr => pppoeRecvPadr st
  | .lac quitting t s lns puser => (Server.lacCreateTunnelsession st quitting t s lns puser).1
  | .shutdown s reason cdnResult cdnError termCause =>
      sessionshutdown st s reason cdnResult cdnError termCause
  | .kill s reason termCause => sessionkill st s reason termCause
  | .tick time timeNow => { st with time := time, timeNow := timeNow }

/-- The session that an action opens, and the tables it is taken from. -/
def ListAction.taking (st : State) : ListAction → Option (State × Nat)
  | .icrq quitting t asession =>
      if st.sessionfree ≠ 0 ∧ ¬ quitting then some (icrqEntry st t asession) else none
  | .padr => some (st, st.sessionfree)
  | .lac quitting t _ _ _ =>
      if lacOpens st quitting t then some (st, st.sessionfree) else none
  | _ => none

/-- A master from its takeover on. The clock is never 0. -/
def listSystem : TransitionSystem State ListAction where
  initial st := ∃ table, Received table ∧ st = takeSessions table
  step st action next :=
    next = action.perform st ∧ ∀ time timeNow, action = .tick time timeNow → timeNow ≠ 0

/-- The two functions that do not look whether the list is empty find a session on it. -/
def HasRoom (st : State) : ListAction → Prop
  | .padr => st.sessionfree ≠ 0
  | .lac quitting t _ _ _ => lacOpens st quitting t → st.sessionfree ≠ 0
  | _ => True

/-- An action takes a session that was not in use, and none when the list is empty. -/
structure Allocates (st : State) (action : ListAction) : Prop where
  fresh : ∀ entry, action.taking st = some entry →
    entry.2 ≠ 0 ∧ (entry.1.session entry.2).opened = 0
  full : st.sessionfree = 0 → action.taking st = none
  created : ∀ s, ((action.perform st).session s).opened ≠ 0 →
    (st.session s).opened ≠ 0 ∨ ∃ entry, action.taking st = some entry ∧ entry.2 = s

theorem findSession_opened {far s : Nat} (found : findSession st t far = some s) :
    (st.session s).opened ≠ 0 := by
  have holds := List.find?_some found
  exact (of_decide_eq_true holds).1

theorem Strung.icrqEntry (strung : Strung st) (t asession : Nat)
    (nonempty : st.sessionfree ≠ 0) :
    Released st (icrqEntry st t asession).1 ∧
      (icrqEntry st t asession).2 = (icrqEntry st t asession).1.sessionfree ∧
      (icrqEntry st t asession).2 ≠ 0 := by
  rw [Server.icrqEntry]
  split
  · rename_i s found
    have used := findSession_opened found
    obtain ⟨positive, _, next⟩ := strung.inUse s used
    have nonzero : s ≠ 0 := Nat.ne_of_gt positive
    refine ⟨strung.sessionkill .., ?_, nonzero⟩
    obtain ⟨_, closed | linked⟩ | ⟨_, _, st', _, killed⟩ :=
      sessionkill_cases st s none (some .adminReset)
    · exact absurd closed used
    · exact absurd next linked
    · change s = (Server.sessionkill st s none (some .adminReset)).sessionfree
      rw [killed, State.sessionfree, State.emit_session, sessionclear_session _ nonzero,
        update_self]
  · exact ⟨Released.of_sameList strung (SameList.refl st), rfl, nonempty⟩

theorem Strung.opens {from' : State} (released : Released st from') (t : Nat)
    (nonempty : from'.sessionfree ≠ 0) {st' : State}
    (same : SameList (Server.openSession from' from'.sessionfree t) st') :
    Strung st' ∧ (from'.session from'.sessionfree).opened = 0 ∧
      ∀ s, (st'.session s).opened ≠ 0 → (st.session s).opened ≠ 0 ∨ from'.sessionfree = s := by
  refine ⟨same.strung (released.strung.openSession t nonempty),
    (released.strung.list.head_free nonempty).2.2, fun s used => ?_⟩
  rw [same.opened, openSession_session, update_apply, update_apply] at used
  split_ifs at used with taken first
  · exact Or.inr taken.symm
  · exact absurd released.strung.unopened used
  · exact Or.inl (released.fewer s used)

theorem padr_sameList (st : State) :
    SameList (openSession st st.sessionfree tunnelIdPppoe) (pppoeRecvPadr st) := by
  simp only [pppoeRecvPadr]
  refine SameList.trans ?_ (changeState_sameList _ _ _)
  refine SameList.trans ?_ (sendlcp_sameList _)
  refine SameList.trans ?_ (SameList.emit _ _)
  refine SameList.trans ?_ (SameList.setLocal _ _ _)
  exact SameList.setSession (by rfl) (by rfl)

theorem lacOpenSession_sameList (st : State) (t s : Nat) (puser : List UInt8) :
    SameList (openSession st st.sessionfree t) (lacOpenSession st t s puser) := by
  simp only [lacOpenSession]
  refine SameList.trans ?_ (SameList.setSession (by rfl) (by rfl))
  refine SameList.trans ?_ (SameList.setSession (by rfl) (by rfl))
  refine SameList.trans ?_ (SameList.emit _ _)
  exact SameList.setSession (by rfl) (by rfl)

theorem lacOpenTunnel_sameList (st : State) (lns : RemoteLns) :
    SameList st (lacOpenTunnel st lns).1 := by
  have assigned : SameList st (newTunnel st).1 := by
    rw [newTunnel]
    split
    · exact SameList.of_session rfl rfl
    · exact SameList.refl st
  simp only [lacOpenTunnel]
  split
  · exact assigned
  · refine assigned.trans (SameList.trans ?_ (SameList.emit _ _))
    exact (tunnelclear_sameList _ _).trans (SameList.of_session rfl rfl)

theorem lacCreateTunnelsession_opens {quitting : Bool} (opens : lacOpens st quitting t)
    (s : Nat) (lns : RemoteLns) (puser : List UInt8) :
    lacCreateTunnelsession st quitting t s lns puser = (lacOpenSession st t s puser, true) := by
  rw [lacCreateTunnelsession, if_neg opens.1, if_pos opens.2.1, if_neg opens.2.2]

theorem Strung.lacCreateTunnelsession (strung : Strung st) {quitting : Bool}
    (none : ¬ lacOpens st quitting t) (s : Nat) (lns : RemoteLns) (puser : List UInt8) :
    Released st (lacCreateTunnelsession st quitting t s lns puser).1 := by
  rw [Server.lacCreateTunnelsession]
  split_ifs with new quits opened quits
  · exact Released.of_sameList strung (SameList.refl st)
  · exact Released.of_sameList strung (lacOpenTunnel_sameList st lns)
  · exact strung.tunnelshutdown ..
  · exact absurd ⟨new, opened, quits⟩ none
  · exact Released.of_sameList strung (SameList.refl st)

theorem icrq_sameList (st : State) (t asession : Nat) (nonempty : st.sessionfree ≠ 0) :
    SameList (openSession (icrqEntry st t asession).1 (icrqEntry st t asession).2 t)
      (icrq st false t asession) := by
  simp only [icrq]
  rw [if_pos ⟨nonempty, nofun⟩]
  refine SameList.trans ?_ (SameList.emit _ _)
  exact SameList.setSession (by rfl) (by rfl)

theorem Allocates.room (allocates : Allocates st .padr) : st.sessionfree ≠ 0 :=
  (allocates.fresh _ rfl).1

theorem Released.allocates {action : ListAction} (released : Released st (action.perform st))
    (none : action.taking st = none) : Strung (action.perform st) ∧ Allocates st action := by
  refine ⟨released.strung, fun entry taken => ?_, fun _ => none,
    fun s used => Or.inl (released.fewer s used)⟩
  rw [none] at taken
  cases taken

theorem Strung.allocates {action : ListAction} {entry : State × Nat}
    (nonempty : st.sessionfree ≠ 0) (released : Released st entry.1)
    (head : entry.2 = entry.1.sessionfree) (nonzero : entry.2 ≠ 0)
    (taken : action.taking st = some entry)
    (same : SameList (Server.openSession entry.1 entry.2 t) (action.perform st)) :
    Strung (action.perform st) ∧ Allocates st action := by
  rw [head] at same nonzero
  obtain ⟨strung, unopened, created⟩ := Strung.opens released t nonzero same
  refine ⟨strung, fun entry' taken' => ?_, fun empty => absurd empty nonempty, fun s used => ?_⟩
  · cases taken.symm.trans taken'
    rw [head]
    exact ⟨nonzero, unopened⟩
  · rcases created s used with before | same
    · exact Or.inl before
    · exact Or.inr ⟨entry, taken, head.trans same⟩

theorem Strung.perform (strung : Strung st) (action : ListAction) (room : HasRoom st action)
    (clock : ∀ time timeNow, action = .tick time timeNow → timeNow ≠ 0) :
    Strung (action.perform st) ∧ Allocates st action := by
  have still := Released.of_sameList strung (SameList.refl st)
  cases action with
  | icrq quitting t asession =>
      by_cases opens : st.sessionfree ≠ 0 ∧ ¬ quitting
      · obtain ⟨released, head, nonzero⟩ := strung.icrqEntry t asession opens.1
        obtain rfl : quitting = false := by simpa using opens.2
        exact Strung.allocates opens.1 released head nonzero (if_pos opens)
          (icrq_sameList st t asession opens.1)
      · apply Released.allocates
        · change Released st (Server.icrq st quitting t asession)
          rw [Server.icrq, if_neg opens]
          exact still.andThen (SameList.emit _ _)
        · exact if_neg opens
  | padr =>
      have nonempty : st.sessionfree ≠ 0 := room
      exact Strung.allocates nonempty still rfl nonempty rfl (padr_sameList st)
  | lac quitting t s lns puser =>
      by_cases opens : lacOpens st quitting t
      · have nonempty : st.sessionfree ≠ 0 := room opens
        have taken : (ListAction.lac quitting t s lns puser).taking st =
          some (st, st.sessionfree) := if_pos opens
        apply Strung.allocates nonempty still rfl nonempty taken
        change SameList _ (Server.lacCreateTunnelsession st quitting t s lns puser).1
        rw [lacCreateTunnelsession_opens opens]
        exact lacOpenSession_sameList st t s puser
      · exact Released.allocates (strung.lacCreateTunnelsession opens s lns puser) (if_neg opens)
  | shutdown s reason cdnResult cdnError termCause =>
      exact Released.allocates
        (still.andThen (SameList.of_kept (sessionshutdown_kept ..))) rfl
  | kill s reason termCause => exact Released.allocates (strung.sessionkill ..) rfl
  | tick time timeNow =>
      apply Released.allocates _ rfl
      exact ⟨⟨strung.list, strung.inUse, clock time timeNow rfl⟩, fun _ used => used⟩

/-- The list of free sessions. In every run in which the two functions that do not look
whether the list is empty find a session on it, the list visits exactly the sessions that
are not in use; an action takes only sessions that are not in use if and only if this
holds of it. -/
theorem freeList_sound {st : State} (reached : listSystem.ReachableUnder HasRoom st) :
    Strung st ∧ ∀ action, (∀ time timeNow, action = .tick time timeNow → timeNow ≠ 0) →
      (Allocates st action ↔ HasRoom st action) := by
  have strung : Strung st := by
    refine reached.invariant ?_ ?_
    · rintro _ ⟨table, received, rfl⟩
      exact (takeSessions_strung received).1
    · rintro st action _ strung room ⟨rfl, clock⟩
      exact (strung.perform action room clock).1
  refine ⟨strung, fun action clock => ⟨fun sound => ?_, fun room =>
    (strung.perform action room clock).2⟩⟩
  cases action with
  | padr => exact sound.room
  | lac quitting t s lns puser => exact fun opens => (sound.fresh _ (if_pos opens)).1
  | _ => trivial

/-- A table in which the sessions that are `used` are open. -/
def tableOf (used : Nat → Bool) : State :=
  { State.start .zero (fun _ => .zero) 0 0 1 with
    session := fun s => if used s then { Session.zero with opened := 1, tunnel := 2 } else .zero }

theorem tableOf_opened : ((tableOf used).session s).opened = 0 ↔ used s = false := by
  change (if used s then { Session.zero with opened := 1, tunnel := 2 }
    else Session.zero).opened = 0 ↔ _
  cases used s <;> decide

theorem tableOf_received (range : ∀ s, used s → 1 ≤ s ∧ s < maxSession) :
    Received (tableOf used) := by
  refine ⟨fun s opened => ?_, Nat.one_ne_zero⟩
  have isUsed : used s := by
    by_contra unused
    exact opened ((tableOf_opened used s).mpr (Bool.eq_false_iff.mpr unused))
  refine ⟨(range s isUsed).1, (range s isUsed).2, ?_⟩
  change (if used s then { Session.zero with opened := 1, tunnel := 2 } else Session.zero).next = 0
  rw [if_pos isUsed]
  rfl

theorem takeSessions_sessionfree (range : ∀ s, used s → 1 ≤ s ∧ s < maxSession) :
    (takeSessions (tableOf used)).sessionfree = 0 ↔ ∀ s, 1 ≤ s → s < maxSession → used s := by
  obtain ⟨strung, opened⟩ := takeSessions_strung (tableOf_received used range)
  rw [State.sessionfree]
  refine strung.list.head_zero.trans ⟨fun full s low high => ?_, fun full s free => ?_⟩
  · by_contra unused
    apply full s ⟨low, high, _⟩
    rw [opened, tableOf_opened]
    exact Bool.eq_false_iff.mpr unused
  · have unused := free.2.2
    rw [opened, tableOf_opened, full s free.1 free.2.1] at unused
    cases unused

/-- A master that took an empty table over opens a PPPoE session. -/
theorem freeList_sound_padr :
    Strung (pppoeRecvPadr (takeSessions (tableOf fun _ => false))) := by
  have received := tableOf_received (fun _ => false) nofun
  refine (freeList_sound (.step .padr (.initial ⟨_, received, rfl⟩) ?_ ⟨rfl, nofun⟩)).1
  change (takeSessions (tableOf fun _ => false)).sessionfree ≠ 0
  rw [Ne, takeSessions_sessionfree (fun _ => false) nofun]
  intro full
  have room : 1 < maxSession := by unfold maxSession; omega
  exact absurd (full 1 le_rfl room) nofun

/-- With every session open, a PADR opens entry 0, which holds the head of the list. -/
theorem freeList_exhausted :
    ¬ ∀ st, listSystem.Reachable st → ∀ action : ListAction,
      (∀ time timeNow, action = .tick time timeNow → timeNow ≠ 0) →
        Strung st ∧ Allocates st action := by
  intro sound
  let used : Nat → Bool := fun s => decide (1 ≤ s ∧ s < maxSession)
  have range : ∀ s, used s → 1 ≤ s ∧ s < maxSession := fun s isUsed => of_decide_eq_true isUsed
  have empty : (takeSessions (tableOf used)).sessionfree = 0 :=
    (takeSessions_sessionfree used range).mpr fun s low high => decide_eq_true ⟨low, high⟩
  have allocates :=
    (sound _ (.initial ⟨_, tableOf_received used range, rfl⟩) .padr nofun).2
  exact allocates.room empty

end L2tpns.Server
