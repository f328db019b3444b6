import L2tpns.Foundation.Pairing
import L2tpns.Server.Authentication
import L2tpns.Server.FreeList
import L2tpns.Server.StopRequest

/-! # Whose a RADIUS slot is

A session knows its slot, and a slot in use knows its session (`L2tpns.Server.Assigned`).
What takes a slot, sends from it or gives it up keeps this, and so do a shutdown and a
kill. An answer that accepts, with all that it sets up, at most gives slots up
(`L2tpns.Server.Releases`).
-/

namespace L2tpns.Server

open Foundation Function State

/-- What the ownership of slots depends on. -/
structure Desk where
  time : Nat
  timeNow : Nat
  radius : Nat → Radius
  slot : Nat → Nat
  opened : Nat → Nat
  next : Nat → Nat
  forwardtosession : Nat → Nat

def State.desk (st : State) : Desk where
  time := st.time
  timeNow := st.timeNow
  radius := st.radius
  slot := fun s => (st.sessLocal s).radius
  opened := fun s => (st.session s).opened
  next := fun s => (st.session s).next
  forwardtosession := fun s => (st.session s).forwardtosession

/-- The session whose request a slot in use sends; 0 if there is none. -/
def State.owner (st : State) (r : Nat) : Nat :=
  if (st.radius r).state = .null then 0 else (st.radius r).session

/-- Sessions and slots in use name each other, on a sound list of sessions. No session
is linked to itself. -/
structure Assigned (st : State) : Prop where
  strung : Strung st
  paired : Paired (fun s => (st.sessLocal s).radius) st.owner
  inUse : ∀ s, s ≠ 0 → (st.sessLocal s).radius ≠ 0 → (st.session s).opened ≠ 0
  unowned : ∀ r, r = 0 ∨ (st.radius r).state = .null → (st.radius r).session = 0
  unlinked : ∀ s, s ≠ 0 → (st.session s).forwardtosession ≠ s

variable {st st' : State} {s : Nat}

theorem desk_of_books (same : st'.books = st.books) : st'.desk = st.desk := by
  have standing : ∀ s, (st'.session s).standing = (st.session s).standing :=
    fun s => congrArg (fun books : Books => books.standing s) same
  have opened : ∀ s, (st'.session s).opened = (st.session s).opened :=
    fun s => (congrArg Standing.opened (standing s) :)
  have next : ∀ s, (st'.session s).next = (st.session s).next :=
    fun s => (congrArg Standing.next (standing s) :)
  have linked : ∀ s, (st'.session s).forwardtosession = (st.session s).forwardtosession :=
    fun s => (congrArg Standing.forwardtosession (standing s) :)
  have time : st'.time = st.time := congrArg Books.time same
  have timeNow : st'.timeNow = st.timeNow := congrArg Books.timeNow same
  have radius : st'.radius = st.radius := congrArg Books.radius same
  have slot : (fun s => (st'.sessLocal s).radius) = fun s => (st.sessLocal s).radius :=
    congrArg Books.slot same
  simp only [State.desk, opened, next, linked, time, timeNow, radius, slot]

theorem slot_of_desk (same : st'.desk = st.desk) (s : Nat) :
    (st'.sessLocal s).radius = (st.sessLocal s).radius :=
  congrFun (congrArg Desk.slot same) s

theorem opened_of_desk (same : st'.desk = st.desk) (s : Nat) :
    (st'.session s).opened = (st.session s).opened :=
  congrFun (congrArg Desk.opened same) s

theorem linked_of_desk (same : st'.desk = st.desk) (s : Nat) :
    (st'.session s).forwardtosession = (st.session s).forwardtosession :=
  congrFun (congrArg Desk.forwardtosession same) s

theorem State.emit_desk (effect : Effect) : (st.emit effect).desk = st.desk := rfl

theorem State.setBundle_desk (b : Nat) (change : Bundle → Bundle) :
    (st.setBundle b change).desk = st.desk := rfl

theorem State.setPool_desk (i : Nat) (change : IpPool → IpPool) :
    (st.setPool i change).desk = st.desk := rfl

theorem State.setSession_desk {change : Session → Session}
    (opened : (change (st.session s)).opened = (st.session s).opened)
    (next : (change (st.session s)).next = (st.session s).next)
    (linked : (change (st.session s)).forwardtosession = (st.session s).forwardtosession) :
    (st.setSession s change).desk = st.desk := by
  simp only [State.desk, setSession_frame Session.opened opened,
    setSession_frame Session.next next,
    setSession_frame Session.forwardtosession linked]
  rfl

theorem State.setLocal_desk {change : SessLocal → SessLocal}
    (keeps : (change (st.sessLocal s)).radius = (st.sessLocal s).radius) :
    (st.setLocal s change).desk = st.desk := by
  simp only [State.desk, setLocal_frame SessLocal.radius keeps]
  rfl

theorem Assigned.of_desk (assigned : Assigned st) (same : st'.desk = st.desk) :
    Assigned st' := by
  have radius : st'.radius = st.radius := congrArg Desk.radius same
  have slot := slot_of_desk same
  have opened := opened_of_desk same
  have next : ∀ s, (st'.session s).next = (st.session s).next :=
    congrFun (congrArg Desk.next same)
  have linked := linked_of_desk same
  have list : SameList st st' := ⟨next, opened, congrArg Desk.timeNow same⟩
  refine ⟨list.strung assigned.strung, ?_, fun s some taken => ?_, fun r free => ?_,
    fun s some => ?_⟩
  · apply assigned.paired.congr fun s _ => slot s
    intro r _
    rw [State.owner, State.owner, radius]
  · rw [slot] at taken
    rw [opened]
    exact assigned.inUse s some taken
  · rw [radius] at free ⊢
    exact assigned.unowned r free
  · rw [linked]
    exact assigned.unlinked s some

theorem radiusclear_radius (r s : Nat) :
    (radiusclear st r s).radius = update st.radius r .zero := by
  simp only [radiusclear]
  split <;> rfl

theorem radiusclear_owner (r s : Nat) :
    (radiusclear st r s).owner = update st.owner r 0 := by
  funext k
  rw [update_apply, State.owner, State.owner, radiusclear_radius, update_apply]
  split_ifs <;> rfl

variable {r o : Nat} (t : Nat)

theorem radiusclear_slot (r s : Nat) (some : o ≠ 0) :
    ((radiusclear st r s).sessLocal o).radius =
      update (fun o => (st.sessLocal o).radius) s 0 o := by
  simp only [radiusclear]
  rw [setRadius_sessLocal, update_apply]
  by_cases same : o = s
  · rw [if_neg (same ▸ some), if_pos same, same, setLocal_same]
  · rw [if_neg same]
    split
    · rfl
    · rw [setLocal_other same]

/-- A slot is freed that no other session has. -/
theorem Assigned.radiusclear (assigned : Assigned st)
    (own : s ≠ 0 → (st.sessLocal s).radius = r ∨ (st.sessLocal s).radius = 0)
    (others : r ≠ 0 → ∀ o, o ≠ 0 → o ≠ s → (st.sessLocal o).radius ≠ r) :
    Assigned (radiusclear st r s) := by
  have estate : (Server.radiusclear st r s).estate = st.estate := radiusclear_estate r s
  have session : (Server.radiusclear st r s).session = st.session :=
    congrArg Estate.session estate
  have clock : (Server.radiusclear st r s).timeNow = st.timeNow :=
    congrArg Estate.timeNow estate
  refine ⟨assigned.strung.of_session session clock, ?_, fun o some taken => ?_,
    fun k free => ?_, fun o some => ?_⟩
  · rw [radiusclear_owner]
    exact (assigned.paired.release own others).congr (fun o some => radiusclear_slot r s some)
      fun _ _ => rfl
  · rw [Server.radiusclear_slot r s some, update_apply] at taken
    rw [session]
    split at taken
    · exact absurd rfl taken
    · exact assigned.inUse o some taken
  · rw [radiusclear_radius, update_apply] at free ⊢
    split at free
    · rename_i same
      rw [if_pos same]
      rfl
    · rename_i other
      rw [if_neg other]
      exact assigned.unowned k free
  · rw [session]
    exact assigned.unlinked o some

theorem Assigned.slot (assigned : Assigned st) (some : (st.radius r).session ≠ 0) :
    r ≠ 0 ∧ (st.sessLocal (st.radius r).session).radius = r := by
  have nonzero : r ≠ 0 := fun first => some (assigned.unowned r (Or.inl first))
  have used : (st.radius r).state ≠ .null := fun free => some (assigned.unowned r (Or.inr free))
  exact ⟨nonzero, (assigned.paired _ r some nonzero).mpr (if_neg used)⟩

theorem Assigned.unshared (assigned : Assigned st) (nonzero : r ≠ 0) (some : o ≠ 0)
    (other : o ≠ (st.radius r).session) : (st.sessLocal o).radius ≠ r := by
  intro same
  have owner : st.owner r = o := (assigned.paired o r some nonzero).mp same
  rw [State.owner] at owner
  split at owner
  · exact some owner.symm
  · exact other owner.symm

theorem Assigned.free (assigned : Assigned st) (r : Nat) :
    Assigned (Server.radiusclear st r (st.radius r).session) :=
  assigned.radiusclear (fun some => Or.inl (assigned.slot some).2)
    fun nonzero _ some other => assigned.unshared nonzero some other

theorem Assigned.freeOf (assigned : Assigned st) (owner : (st.radius r).session = s) :
    Assigned (Server.radiusclear st r s) :=
  owner ▸ assigned.free r

theorem Assigned.owns (assigned : Assigned st) (some : s ≠ 0) (nonzero : r ≠ 0)
    (slot : (st.sessLocal s).radius = r) :
    (st.radius r).state ≠ .null ∧ (st.radius r).session = s := by
  have owner : st.owner r = s := (assigned.paired s r some nonzero).mp slot
  rw [State.owner] at owner
  split at owner
  · exact absurd owner.symm some
  · rename_i used
    exact ⟨used, owner⟩

/-- A slot stays with its session. -/
theorem Assigned.setRadius (assigned : Assigned st) {change : Radius → Radius}
    (session : (change (st.radius r)).session = (st.radius r).session)
    (used : (change (st.radius r)).state ≠ .null) : Assigned (st.setRadius r change) := by
  have sessions : ∀ k, ((st.setRadius r change).radius k).session = (st.radius k).session := by
    intro k
    by_cases same : k = r
    · rw [same, setRadius_same, session]
    · rw [setRadius_other same]
  refine ⟨assigned.strung.of_session rfl rfl, ?_, assigned.inUse, fun k free => ?_,
    assigned.unlinked⟩
  · apply assigned.paired.congr fun _ _ => rfl
    intro k _
    rw [State.owner, State.owner, sessions]
    by_cases same : k = r
    · rw [same, setRadius_same, if_neg used]
      split
      · rename_i free
        exact assigned.unowned r (Or.inr free)
      · rfl
    · rw [setRadius_other same]
  · rw [sessions]
    by_cases same : k = r
    · rw [same, setRadius_same] at free
      exact assigned.unowned k (Or.inl (same ▸ free.resolve_right used))
    · rw [setRadius_other same] at free
      exact assigned.unowned k free

/-- A session takes a free slot, if it has none. -/
theorem Assigned.radiusnew (assigned : Assigned st) (opened : s = 0 ∨ (st.session s).opened ≠ 0) :
    Assigned (radiusnew st s).1 := by
  obtain ⟨_, same⟩ | ⟨_, last, full⟩ | ⟨none, last, r, nonzero, free, taken⟩ :=
    radiusnew_cases st s
  · rw [same]
    exact assigned
  · rw [full]
    exact assigned.of_desk rfl
  · rw [taken]
    have slots (o : Nat) : (((({ st with nextRadiusId := last } : State).setLocal s fun own =>
        { own with radius := r }).setRadius r fun _ => { Radius.zero with
          session := s, state := .wait, retry := (st.time + 1200) % 2 ^ 32 }).sessLocal o).radius =
        update (fun o => (st.sessLocal o).radius) s r o := by
      rw [setRadius_sessLocal, update_apply]
      by_cases same : o = s
      · rw [if_pos same, same, setLocal_same]
      · rw [if_neg same, setLocal_other same]
    refine ⟨assigned.strung.of_session rfl rfl, ?_, fun o some used => ?_, fun k unused => ?_,
      assigned.unlinked⟩
    · have owner : st.owner r = 0 := if_pos free
      apply (assigned.paired.take none owner).congr fun o _ => slots o
      intro k _
      rw [State.owner, update_apply]
      by_cases same : k = r
      · rw [if_pos same, same, setRadius_same]
        rfl
      · rw [if_neg same, setRadius_other same]
        rfl
    · rw [slots, update_apply] at used
      split at used
      · rename_i same
        subst same
        exact opened.resolve_left some
      · exact assigned.inUse o some used
    · by_cases same : k = r
      · rw [same, setRadius_same] at unused
        exact absurd unused (by rw [not_or]; exact ⟨nonzero, nofun⟩)
      · rw [setRadius_other same] at unused ⊢
        exact assigned.unowned k unused

/-- A change of a slot to a state, for the same session. -/
def Puts (state : RadiusState) (change : Radius → Radius) : Prop :=
  ∀ slot, (change slot).session = slot.session ∧ (change slot).state = state

theorem radiussendOr_elim {timeout : State → Nat → State} {request : RadiusState}
    {motive : State → Prop} (owner : (st.radius r).session = s) (unsent : motive st)
    (unaccounted : motive (radiusclear st r s))
    (parked : ∀ change, Puts .wait change → motive (st.setRadius r change))
    (timedOut : ∀ change, Puts request change → s ≠ 0 → request.isAuth →
      motive (timeout (st.setRadius r change) s))
    (givenUp : ∀ change, Puts request change → motive (radiusclear (st.setRadius r change) r s))
    (sent : ∀ change, Puts request change →
      motive ((st.setRadius r change).emit (.radius request r s)))
    (started : ∀ change, Puts request change →
      motive (((st.setRadius r change).emit (.radius request r s)).setLocal s fun own =>
        { own with lastInterim := st.timeNow })) :
    motive (radiussendOr timeout st r request) := by
  simp only [radiussendOr, owner]
  generalize (if (st.radius r).state = request then (st.radius r).tries else 0) = tried
  split_ifs with none secret off many nobody auth start
  · exact unsent
  · exact unsent
  · exact unaccounted
  · rw [setRadius_setRadius]
    exact parked _ fun _ => ⟨rfl, rfl⟩
  · exact timedOut _ (fun _ => ⟨rfl, rfl⟩) nobody auth
  · exact givenUp _ fun _ => ⟨rfl, rfl⟩
  · exact started _ fun _ => ⟨rfl, rfl⟩
  · exact sent _ fun _ => ⟨rfl, rfl⟩

/-- A request is sent from a slot, which may be freed. -/
theorem Assigned.radiussendOr {timeout : State → Nat → State}
    (timesOut : ∀ st s, Assigned st → Assigned (timeout st s)) (assigned : Assigned st) (r : Nat)
    {request : RadiusState} (awaiting : request.isAwaiting) :
    Assigned (radiussendOr timeout st r request) := by
  have used : request ≠ .null := by
    rintro rfl
    cases awaiting
  have counts (change : Radius → Radius) (puts : Puts request change) :
      Assigned (st.setRadius r change) :=
    assigned.setRadius (puts _).1 ((puts _).2 ▸ used)
  apply radiussendOr_elim rfl
  · exact assigned
  · exact assigned.free r
  · intro change puts
    refine assigned.setRadius (puts _).1 ?_
    rw [(puts _).2]
    exact nofun
  · exact fun change puts _ _ => timesOut _ _ (counts change puts)
  · intro change puts
    apply (counts change puts).freeOf
    rw [setRadius_same, (puts _).1]
  · exact fun change puts => (counts change puts).of_desk (emit_desk _)
  · exact fun change puts =>
      ((counts change puts).of_desk (emit_desk _)).of_desk (setLocal_desk rfl)

theorem Assigned.nonzero (assigned : Assigned st) (opened : (st.session s).opened ≠ 0) : s ≠ 0 :=
  Nat.ne_of_gt (assigned.strung.inUse s opened).1

theorem radiusnew_opened (st : State) (s : Nat) : (radiusnew st s).1.session = st.session :=
  congrArg Estate.session (radiusnew_estate st s)

theorem Assigned.given (assigned : Assigned st) (opened : (st.session s).opened ≠ 0)
    (full : (Server.radiusnew st s).2 ≠ 0) :
    ((Server.radiusnew st s).1.radius (Server.radiusnew st s).2).state ≠ .null ∧
      ((Server.radiusnew st s).1.radius (Server.radiusnew st s).2).session = s :=
  (assigned.radiusnew (Or.inr opened)).owns (assigned.nonzero opened) full (radiusnew_slot full)

theorem Assigned.startStop (assigned : Assigned st) (opened : (st.session s).opened ≠ 0)
    (reason : String) (termCause : Option TermCause) :
    Assigned (startStop st s reason termCause) := by
  have allocated := assigned.radiusnew (Or.inr opened)
  simp only [Server.startStop]
  split_ifs with full stopping
  · exact allocated
  · exact allocated
  · apply Assigned.radiussendOr (fun _ _ timedOut => timedOut) _ _ rfl
    exact allocated.setRadius (by rfl) (assigned.given opened full).1

theorem radiusclear_otherSlot (r : Nat) (other : o ≠ s) :
    ((radiusclear st r s).sessLocal o).radius = (st.sessLocal o).radius := by
  simp only [radiusclear]
  rw [setRadius_sessLocal]
  split
  · rfl
  · rw [setLocal_other other]

theorem radiussendAccounting_otherSlot (owner : (st.radius r).session = s)
    (request : RadiusState) (other : o ≠ s) :
    ((radiussendAccounting st r request).sessLocal o).radius = (st.sessLocal o).radius := by
  rw [radiussendAccounting]
  apply radiussendOr_elim owner
    (motive := fun st' => (st'.sessLocal o).radius = (st.sessLocal o).radius)
  · rfl
  · exact radiusclear_otherSlot r other
  · exact fun _ _ => rfl
  · exact fun _ _ _ _ => rfl
  · exact fun _ _ => radiusclear_otherSlot r other
  · exact fun _ _ => rfl
  · exact fun _ _ => congrArg SessLocal.radius (setLocal_other other _)

theorem Assigned.startStop_otherSlot (assigned : Assigned st)
    (opened : (st.session s).opened ≠ 0) (reason : String) (termCause : Option TermCause)
    (other : o ≠ s) :
    ((Server.startStop st s reason termCause).sessLocal o).radius = (st.sessLocal o).radius := by
  have same : ((Server.radiusnew st s).1.sessLocal o).radius = (st.sessLocal o).radius :=
    radiusnew_otherSlot other
  simp only [Server.startStop]
  split_ifs with full stopping
  · exact same
  · exact same
  · refine (radiussendAccounting_otherSlot ?_ .stop other).trans same
    rw [setRadius_same]
    exact (assigned.given opened full).2

theorem saveCounters_desk (s : Nat) : (saveCounters st s).desk = st.desk := by
  rw [saveCounters]
  split <;> rfl

theorem announceKill_desk (s : Nat) : (announceKill st s).desk = st.desk := by
  rw [announceKill]
  split
  · rw [setSession_desk (by rfl) (by rfl) (by rfl), emit_desk]
  · rfl

/-- A shutdown keeps the slots of the other sessions, and every slot unless the time to
die is 0. -/
theorem Assigned.sessionshutdown (assigned : Assigned st) (s : Nat) (reason : String)
    (cdnResult cdnError : Nat) (termCause : Option TermCause) :
    Assigned (sessionshutdown st s reason cdnResult cdnError termCause) ∧
      ∀ o, o ≠ s → ((Server.sessionshutdown st s reason cdnResult cdnError termCause).sessLocal
        o).radius = (st.sessLocal o).radius := by
  by_cases opened : (st.session s).opened = 0
  · rw [Server.sessionshutdown, if_pos opened]
    exact ⟨assigned, fun _ _ => rfl⟩
  · have desk := desk_of_books (sessionshutdown_books reason cdnResult cdnError termCause opened)
    have announced : (announceKill st s).desk = st.desk := announceKill_desk s
    have dying : Assigned (announceKill st s) := assigned.of_desk announced
    have still : ((announceKill st s).session s).opened ≠ 0 := by
      rw [opened_of_desk announced]
      exact opened
    have kept := slot_of_desk announced
    have account : Assigned (accounted st s reason termCause) ∧ ∀ o, o ≠ s →
        ((accounted st s reason termCause).sessLocal o).radius = (st.sessLocal o).radius := by
      rw [accounted, accountOnce]
      split
      · refine ⟨(dying.startStop still reason termCause).of_desk (saveCounters_desk s),
          fun o other => ?_⟩
        rw [slot_of_desk (saveCounters_desk s)]
        exact (dying.startStop_otherSlot still reason termCause other).trans (kept o)
      · exact ⟨dying, fun o _ => kept o⟩
    exact ⟨account.1.of_desk desk, fun o other =>
      (slot_of_desk desk o).trans (account.2 o other)⟩

theorem Assigned.releaseSlot (assigned : Assigned st) (some : s ≠ 0) :
    Assigned (releaseSlot st s) ∧ ((Server.releaseSlot st s).sessLocal s).radius = 0 ∧
      ∀ o, o ≠ s → ((Server.releaseSlot st s).sessLocal o).radius = (st.sessLocal o).radius := by
  rw [Server.releaseSlot]
  split
  · rename_i none
    exact ⟨assigned, none, fun _ _ => rfl⟩
  · rename_i taken
    refine ⟨assigned.radiusclear (fun _ => Or.inl rfl) fun _ o someOther other => ?_, ?_,
      fun o other => radiusclear_otherSlot _ other⟩
    · exact assigned.paired.others rfl taken some someOther other
    · rw [radiusclear_slot _ s some, update_self]

theorem sessionclear_slot (s o : Nat) :
    ((sessionclear st s).sessLocal o).radius =
      update (fun o => (st.sessLocal o).radius) s 0 o := by
  change (update st.sessLocal s _ o).radius = _
  rw [update_apply, update_apply]
  split <;> rfl

theorem Assigned.sessionclear (assigned : Assigned st) (opened : (st.session s).opened ≠ 0)
    (none : (st.sessLocal s).radius = 0) : Assigned (sessionclear st s) := by
  have some := assigned.nonzero opened
  have session := sessionclear_session st some
  have slots (o : Nat) :
      ((Server.sessionclear st s).sessLocal o).radius = (st.sessLocal o).radius := by
    rw [sessionclear_slot, update_apply]
    split
    · rename_i same
      rw [same, none]
    · rfl
  refine ⟨assigned.strung.sessionclear opened, assigned.paired.congr (fun o _ => slots o)
    fun _ _ => rfl, fun o someOther taken => ?_, assigned.unowned, fun o someOther => ?_⟩
  · rw [slots] at taken
    have other : o ≠ s := fun same => taken (same ▸ none)
    rw [session, update_of_ne someOther, update_of_ne other]
    exact assigned.inUse o someOther taken
  · rw [session, update_of_ne someOther, update_apply]
    split
    · exact someOther.symm
    · exact assigned.unlinked o someOther

theorem Assigned.shutForKill (assigned : Assigned st) (s : Nat) (reason : Option String)
    (termCause : Option TermCause) : Assigned (shutForKill st s reason termCause) := by
  rw [Server.shutForKill]
  split
  · exact (assigned.sessionshutdown ..).1
  · exact assigned

theorem Assigned.shutLinked (assigned : Assigned st) (some : s ≠ 0) (reason : Option String) :
    Assigned (shutLinked st s reason) ∧
      ((Server.shutLinked st s reason).sessLocal s).radius = (st.sessLocal s).radius := by
  simp only [Server.shutLinked]
  split
  · have shut := assigned.sessionshutdown (st.session s).forwardtosession
      (reason.getD "Murdered!") 3 0 (Option.some .adminReset)
    exact ⟨shut.1, shut.2 s (assigned.unlinked s some).symm⟩
  · exact ⟨assigned, rfl⟩

/-- A kill frees the slot of the session. -/
theorem Assigned.sessionkill (assigned : Assigned st) (s : Nat) (reason : Option String)
    (termCause : Option TermCause) : Assigned (sessionkill st s reason termCause) := by
  simp only [Server.sessionkill]
  split_ifs with closed listed
  · exact assigned
  · exact assigned
  · have some := assigned.nonzero closed
    have shut := assigned.shutForKill s reason termCause
    obtain ⟨released, none, _⟩ := shut.releaseSlot some
    obtain ⟨linked, same⟩ := released.shutLinked some reason
    refine Assigned.of_desk (linked.sessionclear ?_ (same.trans none)) (emit_desk _)
    have kept : Kept st _ := ((shutForKill_kept s reason termCause).trans
      (Kept.of_estate (releaseSlot_estate s))).trans (shutLinked_kept s reason)
    rw [kept.opened]
    exact closed

/-- The time to die of a session that is shut down now is not 0, so that it is seen to be
noted. -/
def State.Awake (st : State) : Prop := (st.time + 150) % 2 ^ 32 ≠ 0

theorem State.Awake.of_desk (awake : st.Awake) (same : st'.desk = st.desk) : st'.Awake := by
  have time : st'.time = st.time := congrArg Desk.time same
  rw [State.Awake, time]
  exact awake

theorem sessionshutdown_desk (awake : st.Awake) (s : Nat) (reason : String)
    (cdnResult cdnError : Nat) (termCause : Option TermCause) :
    (sessionshutdown st s reason cdnResult cdnError termCause).desk = st.desk := by
  by_cases opened : (st.session s).opened = 0
  · rw [sessionshutdown, if_pos opened]
  · have desk := desk_of_books (sessionshutdown_books reason cdnResult cdnError termCause opened)
    rw [desk, accounted, accountOnce, if_neg, announceKill_desk]
    rintro ⟨_, _, unnoted⟩
    rw [announceKill_session, update_self] at unnoted
    exact awake (dieAfter_zero.mp unnoted).2

/-- Slots are given up, and none is taken. -/
structure Releases (st st' : State) : Prop where
  assigned : Assigned st'
  slots : ∀ o, (st'.sessLocal o).radius = (st.sessLocal o).radius ∨ (st'.sessLocal o).radius = 0
  time : st'.time = st.time

namespace Releases

variable {st'' : State}

theorem of_desk (assigned : Assigned st) (same : st'.desk = st.desk) : Releases st st' :=
  ⟨assigned.of_desk same, fun o => Or.inl (slot_of_desk same o), congrArg Desk.time same⟩

theorem refl (assigned : Assigned st) : Releases st st := of_desk assigned rfl

theorem trans (first : Releases st st') (second : Releases st' st'') : Releases st st'' := by
  refine ⟨second.assigned, fun o => ?_, second.time.trans first.time⟩
  rcases second.slots o with same | none
  · rw [same]
    exact first.slots o
  · exact Or.inr none

theorem andThen (releases : Releases st st') (same : st''.desk = st'.desk) : Releases st st'' :=
  releases.trans (of_desk releases.assigned same)

theorem awake (releases : Releases st st') (awake : st.Awake) : st'.Awake := by
  rw [State.Awake, releases.time]
  exact awake

end Releases

theorem shutForKill_desk (awake : st.Awake) (s : Nat) (reason : Option String)
    (termCause : Option TermCause) : (shutForKill st s reason termCause).desk = st.desk := by
  rw [shutForKill]
  split
  · exact sessionshutdown_desk awake ..
  · rfl

theorem shutLinked_desk (awake : st.Awake) (s : Nat) (reason : Option String) :
    (shutLinked st s reason).desk = st.desk := by
  simp only [shutLinked]
  split
  · exact sessionshutdown_desk awake ..
  · rfl

theorem sessionkill_slot (assigned : Assigned st) (awake : st.Awake) (s : Nat)
    (reason : Option String) (termCause : Option TermCause) :
    sessionkill st s reason termCause = st ∨
      (st.session s).opened ≠ 0 ∧ (sessionkill st s reason termCause).time = st.time ∧
        ∀ o, ((sessionkill st s reason termCause).sessLocal o).radius =
          update (fun o => (st.sessLocal o).radius) s 0 o := by
  simp only [sessionkill]
  split_ifs with closed listed
  · exact Or.inl rfl
  · exact Or.inl rfl
  · have shut := shutForKill_desk awake s reason termCause
    obtain ⟨released, _, others⟩ :=
      (assigned.of_desk shut).releaseSlot (assigned.nonzero closed)
    have time : (releaseSlot (shutForKill st s reason termCause) s).time = st.time :=
      (congrArg Estate.time (releaseSlot_estate s)).trans (congrArg Desk.time shut)
    have awake' : (releaseSlot (shutForKill st s reason termCause) s).Awake := by
      rw [State.Awake, time]
      exact awake
    have linked := shutLinked_desk awake' s reason
    have clock : ∀ st : State,
        ((sessionclear st s).emit (.clusterSession s)).time = st.time := fun _ => rfl
    have cleared : ∀ (st : State) (o : Nat), (((sessionclear st s).emit (.clusterSession
        s)).sessLocal o).radius = update (fun o => (st.sessLocal o).radius) s 0 o :=
      fun st o => sessionclear_slot s o
    refine Or.inr ⟨closed, (clock _).trans ((congrArg Desk.time linked).trans time), fun o => ?_⟩
    rw [cleared, update_apply, update_apply]
    split
    · rfl
    · rename_i other
      rw [slot_of_desk linked, others o other, slot_of_desk shut]

theorem Releases.sessionkill (assigned : Assigned st) (awake : st.Awake) (s : Nat)
    (reason : Option String) (termCause : Option TermCause) :
    Releases st (sessionkill st s reason termCause) := by
  have killed := assigned.sessionkill s reason termCause
  obtain same | ⟨_, time, slots⟩ := sessionkill_slot assigned awake s reason termCause
  · rw [same]
    exact refl assigned
  · refine ⟨killed, fun o => ?_, time⟩
    rw [slots, update_apply]
    split
    · exact Or.inr rfl
    · exact Or.inl rfl

theorem sessionkill_bundle (some : s ≠ 0) (reason : Option String) (termCause : Option TermCause)
    {x : Nat} (other : x ≠ s) (nonzero : x ≠ 0) :
    ((sessionkill st s reason termCause).session x).bundle = (st.session x).bundle := by
  have shut : ((shutForKill st s reason termCause).session x).bundle = (st.session x).bundle := by
    rw [shutForKill]
    split
    · exact sessionshutdown_bundle ..
    · rfl
  have released : (releaseSlot (shutForKill st s reason termCause) s).session =
      (shutForKill st s reason termCause).session :=
    congrArg Estate.session (releaseSlot_estate s)
  have linked : ∀ st : State,
      ((shutLinked st s reason).session x).bundle = (st.session x).bundle := by
    intro st
    simp only [shutLinked]
    split
    · exact sessionshutdown_bundle ..
    · rfl
  simp only [sessionkill]
  split_ifs
  · rfl
  · rfl
  · rw [emit_session, sessionclear_session _ some, update_of_ne nonzero,
      update_of_ne other, linked, released, shut]

theorem useFilter_desk (filter : Nat) : (useFilter st filter).desk = st.desk := by
  rw [useFilter]
  split <;> rfl

/-- An attribute does not touch the slots. -/
theorem applyAttribute_desk (s : Nat) (accepting : Accepting) (item : RadAttribute)
    (awake : accepting.st.Awake) :
    (applyAttribute s accepting item).st.desk = accepting.st.desk := by
  cases item with
  | framedIp ip | dns1 ip | dns2 ip | framedIpv6Address ip
  | walledGarden => exact setSession_desk rfl rfl rfl
  | framedRoute ip prefixlen | framedIpv6Route route prefixlen =>
      simp only [applyAttribute]
      split
      · rfl
      · exact setSession_desk rfl rfl rfl
  | filterId side name =>
      simp only [applyAttribute]
      split
      · rfl
      · refine (useFilter_desk _).trans ?_
        cases side with
        | inbound | outbound => exact setSession_desk rfl rfl rfl
  | sessionTimeout seconds =>
      simp only [applyAttribute]
      split
      · refine Eq.trans (sessionshutdown_desk ?_ ..) ?_
        · exact awake
        · exact setSession_desk rfl rfl rfl
      · exact setSession_desk rfl rfl rfl
  | tunnelType | other => rfl

theorem applyAttributes_desk (s : Nat) (items : List RadAttribute) (accepting : Accepting)
    (awake : accepting.st.Awake) :
    (items.foldl (applyAttribute s) accepting).st.desk = accepting.st.desk := by
  induction items generalizing accepting with
  | nil => rfl
  | cons item items ih =>
      have same := applyAttribute_desk s accepting item awake
      rw [List.foldl_cons, ih _ (awake.of_desk same), same]

theorem newBundle_desk (st : State) : (newBundle st).1.desk = st.desk := by
  rw [newBundle]
  split <;> rfl

theorem joinBundle_desk (s : Nat) : (joinBundle st s).1.desk = st.desk := by
  simp only [joinBundle]
  split
  · split
    · rfl
    · exact (setBundle_desk ..).trans (setSession_desk rfl rfl rfl)
  · split
    · exact newBundle_desk st
    · refine Eq.trans ?_ (newBundle_desk st)
      exact (setBundle_desk ..).trans (setSession_desk rfl rfl rfl)

theorem setupBundle_desk (awake : st.Awake) (s : Nat) : (setupBundle st s).1.desk = st.desk := by
  have joined : (joinBundle st s).1.desk = st.desk := joinBundle_desk s
  simp only [setupBundle]
  split_ifs
  · exact joined
  · exact (sessionshutdown_desk (awake.of_desk joined) ..).trans joined
  · rfl

theorem assignIpAddress_desk (s : Nat) : (assignIpAddress st s).desk = st.desk := by
  simp only [assignIpAddress]
  split
  · rfl
  · exact (setPool_desk ..).trans (setSession_desk rfl rfl rfl)

theorem setupAddress_desk (awake : st.Awake) (s : Nat) :
    (setupAddress st s).1.desk = st.desk := by
  have assigned : (assignIpAddress st s).desk = st.desk := assignIpAddress_desk s
  simp only [setupAddress]
  split_ifs
  · exact (sessionshutdown_desk (awake.of_desk assigned) ..).trans assigned
  · exact assigned
  · rfl

/-- The session has its slot still, or was killed. -/
def Attached (st : State) (s r : Nat) : Prop :=
  (st.sessLocal s).radius = r ∨ (st.sessLocal s).radius = 0 ∧ (st.session s).bundle = 0

/-- What a session that is set up may do to another or to itself. -/
theorem zapSession_attached {i : Nat} (assigned : Assigned st) (awake : st.Awake) (some : s ≠ 0)
    (nonzero : i ≠ 0) (other : s ≠ i) (attached : Attached st s r) (ip : InAddr) :
    Releases st (zapSession st s ip i) ∧ Attached (zapSession st s ip i) s r := by
  have stays : Releases st st ∧ Attached st s r := ⟨Releases.refl assigned, attached⟩
  simp only [zapSession]
  split_ifs
  · exact stays
  · refine ⟨Releases.sessionkill assigned awake .., ?_⟩
    obtain same | ⟨opened, _, slots⟩ := sessionkill_slot assigned awake s
      (Option.some "Duplicate IP. Suiciding") (Option.some .callback)
    · rw [same]
      exact attached
    · obtain ⟨same, _⟩ | ⟨_, _, st', _, killed⟩ := sessionkill_cases st s
        (Option.some "Duplicate IP. Suiciding") (Option.some .callback)
      · rw [same]
        exact attached
      · right
        rw [slots, update_self, killed, emit_session, sessionclear_session _ some,
          update_of_ne some, update_self]
        exact ⟨rfl, rfl⟩
  · exact stays
  · refine ⟨Releases.sessionkill assigned awake .., ?_⟩
    obtain same | ⟨opened, _, slots⟩ := sessionkill_slot assigned awake i
      (Option.some "Duplicate IP address") (Option.some .adminReset)
    · rw [same]
      exact attached
    · rw [Attached, slots, update_of_ne other,
        sessionkill_bundle nonzero _ _ other some]
      exact attached
  · exact stays
  · exact stays
  · exact stays
  · have desk := sessionshutdown_desk awake i "Duplicate session for users" 3 0
      (Option.some .adminReset)
    refine ⟨Releases.of_desk assigned desk, ?_⟩
    rw [Attached, slot_of_desk desk, sessionshutdown_bundle]
    exact attached
  · exact stays

theorem zapSessions_attached (some : s ≠ 0) (ip : InAddr) (count : Nat) :
    ∀ (i : Nat) (st : State), i ≠ 0 → Assigned st → st.Awake → Attached st s r →
      Releases st (zapSessions st s ip i count) ∧ Attached (zapSessions st s ip i count) s r := by
  induction count with
  | zero => exact fun _ _ _ assigned _ attached => ⟨Releases.refl assigned, attached⟩
  | succ count ih =>
      intro i st nonzero assigned awake attached
      rw [zapSessions]
      split_ifs with same closed
      · exact ih (i + 1) st (Nat.succ_ne_zero i) assigned awake attached
      · exact ⟨Releases.refl assigned, attached⟩
      · obtain ⟨releases, still⟩ := zapSession_attached assigned awake some nonzero
          (fun equal => same equal.symm) attached ip
        obtain ⟨later, last⟩ := ih (i + 1) _ (Nat.succ_ne_zero i) releases.assigned
          (releases.awake awake) still
        exact ⟨releases.trans later, last⟩

theorem setupRoutes_books (s : Nat) : (setupRoutes st s).books = st.books := by
  have routed := routesetAll_books s true (st.session s).route st
  simp only [setupRoutes]
  split_ifs
  · exact routed
  · exact (routeset_books ..).trans routed
  · exact (cacheIp_books ..).trans routed
  · rfl

theorem setupRoutes_session (s : Nat) : (setupRoutes st s).session = st.session := by
  have routed := routesetAll_session s true (st.session s).route st
  simp only [setupRoutes]
  split_ifs
  · exact routed
  · exact (routeset_session ..).trans routed
  · exact (cacheIp_session ..).trans routed
  · rfl

theorem changeState_desk (s : Nat) (fsm : Fsm) (new : FsmState) :
    (changeState st s fsm new).desk = st.desk := by
  simp only [changeState]
  split
  · rfl
  · refine (emit_desk _).trans ((setSession_desk rfl rfl rfl).trans ?_)
    split
    · apply setLocal_desk
      cases fsm <;> rfl
    · rfl

theorem restartTimer_desk (s : Nat) (fsm : Fsm) : (restartTimer st s fsm).desk = st.desk := by
  apply setLocal_desk
  cases fsm <;> rfl

theorem sendipcp_desk (s : Nat) : (sendipcp st s).desk = st.desk := by
  simp only [sendipcp]
  refine (restartTimer_desk ..).trans ((emit_desk _).trans ?_)
  split
  · exact setSession_desk rfl rfl rfl
  · rfl

theorem sendipv6cp_desk (s : Nat) : (sendipv6cp st s).desk = st.desk :=
  (restartTimer_desk ..).trans (emit_desk _)

theorem Releases.radiussend (assigned : Assigned st) (r : Nat) (request : RadiusState)
    (awaiting : request.isAwaiting) (accounting : request.isAuth = false) :
    Releases st (radiussend st r request) := by
  have sent : Assigned (Server.radiussend st r request) :=
    Assigned.radiussendOr (fun _ _ assigned => (assigned.sessionshutdown ..).1) assigned r awaiting
  have freed (st : State) (s : Nat) :
      (∀ o, ((Server.radiusclear st r s).sessLocal o).radius = (st.sessLocal o).radius ∨
        ((Server.radiusclear st r s).sessLocal o).radius = 0) ∧
      (Server.radiusclear st r s).time = st.time := by
    refine ⟨fun o => ?_, congrArg Estate.time (radiusclear_estate r s)⟩
    by_cases other : o = s
    · by_cases none : o = 0
      · left
        simp only [Server.radiusclear]
        rw [if_pos (other ▸ none), setRadius_sessLocal]
      · right
        rw [radiusclear_slot r s none, other, update_self]
    · exact Or.inl (radiusclear_otherSlot r other)
  have slots : (∀ o, ((Server.radiussend st r request).sessLocal o).radius =
      (st.sessLocal o).radius ∨ ((Server.radiussend st r request).sessLocal o).radius = 0) ∧
      (Server.radiussend st r request).time = st.time := by
    apply radiussendOr_elim rfl (motive := fun st' =>
      (∀ o, (st'.sessLocal o).radius = (st.sessLocal o).radius ∨ (st'.sessLocal o).radius = 0) ∧
        st'.time = st.time)
    · exact ⟨fun _ => Or.inl rfl, rfl⟩
    · exact freed st _
    · exact fun _ _ => ⟨fun _ => Or.inl rfl, rfl⟩
    · intro _ _ _ auth
      rw [accounting] at auth
      cases auth
    · exact fun change _ => freed (st.setRadius r change) _
    · exact fun _ _ => ⟨fun _ => Or.inl rfl, rfl⟩
    · exact fun _ _ => ⟨fun o => Or.inl (setLocal_frame SessLocal.radius rfl o), rfl⟩
  exact ⟨sent, slots.1, slots.2⟩

theorem radiusnew_reuse (own : (st.sessLocal s).radius ≠ 0) :
    radiusnew st s = (st, (st.sessLocal s).radius) :=
  if_pos own

/-- The Start record of a session that has a slot is sent from it. -/
theorem Releases.ipcpOpen (assigned : Assigned st) (own : (st.sessLocal s).radius ≠ 0) :
    Releases st (ipcpOpen st s) := by
  have opened : (changeState st s .ipcp .opened).desk = st.desk := changeState_desk ..
  have entered := of_desk assigned opened
  have own' : ((changeState st s .ipcp .opened).sessLocal s).radius ≠ 0 := by
    rw [slot_of_desk opened]
    exact own
  have upward {st' : State} (releases : Releases st st') :
      Releases st (if (st'.session s).ppp.ipv6cp = .stopped then
        changeState (sendipv6cp st' s) s .ipv6cp .requestSent else st') := by
    split
    · exact releases.andThen ((changeState_desk ..).trans (sendipv6cp_desk s))
    · exact releases
  simp only [Server.ipcpOpen, radiusnew_reuse own']
  rw [if_neg own']
  apply upward
  split
  · exact entered
  · have sent := entered.trans (radiussend entered.assigned
      ((changeState st s .ipcp .opened).sessLocal s).radius .start rfl rfl)
    exact sent.andThen ((emit_desk _).trans (setSession_desk rfl rfl rfl))

theorem changeState_bundle (s : Nat) (fsm : Fsm) (new : FsmState) (x : Nat) :
    ((changeState st s fsm new).session x).bundle = (st.session x).bundle := by
  simp only [changeState]
  split
  · rfl
  · rw [emit_session, setSession_frame Session.bundle rfl]
    split <;> rfl

/-- A session that keeps its slot, or has left its bundle, takes no slot. -/
theorem Releases.lcpOpen (assigned : Assigned st) (attached : Attached st s r)
    (nonzero : r ≠ 0) (authenticated : (st.sessLocal s).lcpAuthtype = 0) :
    Releases st (lcpOpen st s) := by
  let entered := st.setSession s fun session =>
    { session with ppp := { session.ppp with phase := .network } }
  have desk : (changeState entered s .lcp .opened).desk = st.desk :=
    (changeState_desk ..).trans (setSession_desk rfl rfl rfl)
  have opened := of_desk assigned desk
  have bundle : ((changeState entered s .lcp .opened).session s).bundle =
      (st.session s).bundle :=
    (changeState_bundle ..).trans (setSession_frame Session.bundle rfl s)
  simp only [Server.lcpOpen, authenticated]
  rw [if_neg (not_not.mpr rfl), if_neg nofun]
  change Releases st (if ((changeState entered s .lcp .opened).session s).bundle = 0 ∨ _ then _
    else _)
  split
  · refine opened.andThen ((changeState_desk ..).trans ((changeState_desk ..).trans
      ((changeState_desk ..).trans (sendipcp_desk s))))
  · rename_i linked
    apply opened.trans
    apply ipcpOpen opened.assigned
    rw [slot_of_desk desk]
    rcases attached with own | ⟨_, none⟩
    · rw [own]
      exact nonzero
    · exact absurd (Or.inl (bundle.trans none)) linked

theorem throttleSession_desk (s : Nat) (rateIn rateOut : Int) :
    (throttleSession st s rateIn rateOut).desk = st.desk := by
  rw [throttleSession]
  split
  · rfl
  · exact (emit_desk _).trans (setSession_desk rfl rfl rfl)

theorem Releases.setupNetwork (assigned : Assigned st) (attached : Attached st s r)
    (nonzero : r ≠ 0) : Releases st (setupNetwork st s) := by
  have desk : (st.setLocal s fun own => { own with lcpAuthtype := 0 }).desk = st.desk :=
    setLocal_desk rfl
  have authenticated := of_desk assigned desk
  have still : Attached (st.setLocal s fun own => { own with lcpAuthtype := 0 }) s r := by
    rw [Attached, slot_of_desk desk]
    exact attached
  have opened := authenticated.trans
    (lcpOpen authenticated.assigned still nonzero (by rw [setLocal_same]))
  have throttled {st' : State} (releases : Releases st st') : Releases st
      (if (st'.session s).throttleIn ≠ 0 ∨ (st'.session s).throttleOut ≠ 0 then
        throttleSession st' s (st'.session s).throttleIn (st'.session s).throttleOut
      else st') := by
    split
    · exact releases.andThen (throttleSession_desk ..)
    · exact releases
  simp only [Server.setupNetwork]
  exact (throttled (opened.andThen (emit_desk _))).andThen
    ((emit_desk _).trans (setSession_desk rfl rfl rfl))

/-- Setting a session up that has slot `r` takes no slot. -/
theorem Releases.sessionsetup (assigned : Assigned st) (awake : st.Awake)
    (some : s ≠ 0) (nonzero : r ≠ 0) (own : (st.sessLocal s).radius = r) (t : Nat) :
    Releases st (sessionsetup st s t) := by
  have bundled := of_desk assigned (setupBundle_desk awake s)
  have addressed := bundled.andThen (setupAddress_desk (bundled.awake awake) s)
  simp only [Server.sessionsetup]
  split
  · split
    · let placed := (setupAddress (setupBundle st s).1 s).1.setSession s fun session =>
        { session with tunnel := t }
      have place : Releases st placed := addressed.andThen (setSession_desk rfl rfl rfl)
      have attached : Attached placed s r := by
        left
        refine (slot_of_desk (setSession_desk rfl rfl rfl) s).trans ?_
        rw [slot_of_desk (setupAddress_desk (bundled.awake awake) s),
          slot_of_desk (setupBundle_desk awake s), own]
      obtain ⟨zaps, still⟩ := zapSessions_attached some (placed.session s).ip
        placed.highestSessionid 1 placed Nat.one_ne_zero place.assigned (place.awake awake) attached
      have zapped := place.trans zaps
      have routed := zapped.andThen (desk_of_books (setupRoutes_books s))
      apply routed.trans
      apply setupNetwork routed.assigned (r := r) _ nonzero
      rw [Attached, slot_of_desk (desk_of_books (setupRoutes_books s)), setupRoutes_session]
      exact still
    · exact addressed
  · exact bundled

theorem Releases.finishAccept (assigned : Assigned st) (awake : st.Awake)
    (some : s ≠ 0) (nonzero : r ≠ 0) (own : (st.sessLocal s).radius = r) (t : Nat) :
    Releases st (finishAccept st r s t) := by
  let told := st.emit (.ppp s (if (st.radius r).chap then pppChap else pppPap)
    [if (st.radius r).chap then 3 else 2, UInt8.ofNat (st.radius r).id])
  let numbered := told.setSession s fun session =>
    { session with
      dns1 := if session.dns1 = 0 then st.config.defaultDns1 else session.dns1
      dns2 := if session.dns2 = 0 then st.config.defaultDns2 else session.dns2
      uniqueId := 0 }
  have desk : numbered.desk = st.desk :=
    (setSession_desk rfl rfl rfl).trans (emit_desk _)
  have number := of_desk assigned desk
  exact number.trans (sessionsetup number.assigned (number.awake awake) some nonzero
    ((slot_of_desk desk s).trans own) t)

theorem State.setTunnel_desk (change : Tunnel → Tunnel) :
    (st.setTunnel t change).desk = st.desk := rfl

theorem tunnelclear_desk : (tunnelclear st t).desk = st.desk := by
  rw [tunnelclear]
  split <;> rfl

theorem lacOpenTunnel_desk (lns : RemoteLns) : (lacOpenTunnel st lns).1.desk = st.desk := by
  have assigned : (newTunnel st).1.desk = st.desk := by
    rw [newTunnel]
    split <;> rfl
  simp only [lacOpenTunnel]
  split
  · exact assigned
  · exact (emit_desk _).trans ((setTunnel_desk ..).trans
      ((tunnelclear_desk _).trans assigned))

theorem Releases.killSessions (reason : Option String) (count : Nat) :
    ∀ (s : Nat) (st : State), Assigned st → st.Awake →
      Releases st (killSessions st t reason s count) := by
  induction count with
  | zero => exact fun _ _ assigned _ => refl assigned
  | succ count ih =>
      intro s st assigned awake
      have killed : Releases st (if (st.session s).tunnel = t then
          Server.sessionkill st s reason (Option.some .adminReset) else st) := by
        split
        · exact sessionkill assigned awake ..
        · exact refl assigned
      exact killed.trans (ih (s + 1) _ killed.assigned (killed.awake awake))

theorem shutSessions_desk (reason : String) (count : Nat) :
    ∀ (s : Nat) (st : State), st.Awake → (shutSessions st t reason s count).desk = st.desk := by
  induction count with
  | zero => exact fun _ _ _ => rfl
  | succ count ih =>
      intro s st awake
      have shut : (if (st.session s).tunnel = t then
          sessionshutdown st s reason 0 0 (Option.some .adminReset) else st).desk = st.desk := by
        split
        · exact sessionshutdown_desk awake ..
        · rfl
      exact (ih (s + 1) _ (awake.of_desk shut)).trans shut

theorem Releases.tunnelshutdown (assigned : Assigned st) (awake : st.Awake) (t : Nat)
    (reason : String) (result : Nat) : Releases st (tunnelshutdown st t reason result) := by
  simp only [Server.tunnelshutdown]
  by_cases never : (st.tunnel t).last = 0 ∨ (st.tunnel t).far = 0 ∨ (st.tunnel t).state = .free
  · rw [if_pos never]
    have dying : Releases st (st.setTunnel t fun tunnel => { tunnel with state := .die }) :=
      of_desk assigned (setTunnel_desk ..)
    simp only [tunnelkill]
    refine Releases.andThen (dying.trans ?_) ((emit_desk _).trans (tunnelclear_desk t))
    exact killSessions t _ _ 1 _ dying.assigned awake
  · rw [if_neg never]
    have shut := shutSessions_desk t reason st.highestSessionid 1 st awake
    apply of_desk assigned
    split
    · exact (emit_desk _).trans shut
    · exact (emit_desk _).trans ((emit_desk _).trans shut)

theorem Assigned.headFree (assigned : Assigned st) (nonempty : st.sessionfree ≠ 0) :
    (st.session st.sessionfree).opened = 0 ∧ (st.sessLocal st.sessionfree).radius = 0 := by
  have free : st.IsFree st.sessionfree := assigned.strung.list.head_free nonempty
  refine ⟨free.2.2, ?_⟩
  by_contra taken
  exact assigned.inUse _ nonempty taken free.2.2

theorem Assigned.openSession (assigned : Assigned st) (t : Nat) (nonempty : st.sessionfree ≠ 0) :
    Assigned (openSession st st.sessionfree t) := by
  obtain ⟨_, none⟩ := assigned.headFree nonempty
  have session := openSession_session st st.sessionfree t
  refine ⟨assigned.strung.openSession t nonempty, assigned.paired, fun o some taken => ?_,
    assigned.unowned, fun o some => ?_⟩
  · have other : o ≠ st.sessionfree := fun same => taken (same ▸ none)
    rw [session, update_of_ne other, update_of_ne some]
    exact assigned.inUse o some taken
  · rw [session, update_apply]
    split
    · exact some.symm
    · rw [update_of_ne some]
      exact assigned.unlinked o some

theorem Assigned.link (assigned : Assigned st) {change : Session → Session} {l : Nat}
    (opened : (change (st.session s)).opened = (st.session s).opened)
    (next : (change (st.session s)).next = (st.session s).next)
    (linked : (change (st.session s)).forwardtosession = l) (other : l ≠ s) :
    Assigned (st.setSession s change) := by
  refine ⟨(SameList.setSession next opened).strung assigned.strung, assigned.paired,
    fun o some taken => ?_, assigned.unowned, fun o some => ?_⟩
  · rw [setSession_frame Session.opened opened]
    exact assigned.inUse o some taken
  · by_cases same : o = s
    · rw [same, setSession_same, linked]
      exact other
    · rw [setSession_other same]
      exact assigned.unlinked o some

theorem Releases.lacOpenSession (assigned : Assigned st) (nonempty : st.sessionfree ≠ 0)
    (opened : (st.session s).opened ≠ 0) (t : Nat) (puser : List UInt8) :
    Releases st (lacOpenSession st t s puser) := by
  have other : st.sessionfree ≠ s := by
    intro same
    exact opened (same ▸ (assigned.headFree nonempty).1)
  have created := assigned.openSession t nonempty
  let touched := ((Server.openSession st st.sessionfree t).setSession s fun session =>
    { session with
      lastData := st.timeNow, ppp := { session.ppp with phase := .establish } }).emit
    (.control t 0 10)
  have touch : Assigned touched :=
    created.of_desk ((emit_desk _).trans (setSession_desk rfl rfl rfl))
  refine ⟨?_, fun o => Or.inl rfl, rfl⟩
  simp only [Server.lacOpenSession]
  exact (touch.link rfl rfl rfl other).link rfl rfl rfl other.symm

end L2tpns.Server
