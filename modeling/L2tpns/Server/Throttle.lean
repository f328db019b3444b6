import L2tpns.Server.State
import L2tpns.Server.Tbf
import L2tpns.Foundation.TransitionSystem

/-! # Buckets of throttled sessions

A session that is throttled has a bucket for each direction. The buckets of a session are
given back when it is throttled anew or shut down; when it is killed they are forgotten with
it. As long as no session is killed that has buckets left, each bucket in use is that of one
open session in one direction, and the sessions have no others
(`L2tpns.Server.Throttle.buckets_owned`).
-/

namespace L2tpns.Server.Throttle

open Function

variable {α : Type}

structure Session where
  opened : Nat
  user : String
  die : Nat
  next : Nat
  forwardtosession : Nat
  /-- `throttle_in` and `throttle_out` -/
  throttle : Direction → Nat
  /-- `tbf_in` and `tbf_out` -/
  tbf : Direction → Nat

def Session.zero : Session := ⟨0, "", 0, 0, 0, fun _ => 0, fun _ => 0⟩

structure State (α : Type) where
  session : Nat → Session
  tbfs : Tbfs α

namespace State

variable (st : State α)

def setSession (s : Nat) (record : Session) : State α :=
  { st with session := Function.update st.session s record }

/-- Free the bucket of a session in one direction. -/
def release (s : Nat) (d : Direction) : State α :=
  let tbf := (st.session s).tbf
  { st with
    session := Function.update st.session s
      { st.session s with tbf := Function.update tbf d 0 }
    tbfs := if tbf d ≠ 0 then st.tbfs.freeTbf (tbf d) else st.tbfs }

/-- Allocate a bucket for a session in one direction. -/
def acquire (s : Nat) (d : Direction) (maxCredit rate : Int) : State α :=
  let (tbfs, id) := st.tbfs.newTbf s maxCredit rate d
  { session := Function.update st.session s
      { st.session s with tbf := Function.update (st.session s).tbf d id }
    tbfs := tbfs }

/-- Set the rate of a session, which has 16 bits. -/
def setThrottle (s : Nat) (d : Direction) (rate : Nat) : State α :=
  st.setSession s { st.session s with
    throttle := Function.update (st.session s).throttle d (rate % 2 ^ 16) }

/-- Throttle a session in one direction; a negative rate keeps the current one. -/
def throttleDirection (s : Nat) (d : Direction) (rate : Int) : State α :=
  if 0 ≤ rate then
    let bytes := rate * 1024 / 8
    let freed := st.release s d
    let renewed := if 0 < rate then freed.acquire s d (bytes * 2) bytes else freed
    renewed.setThrottle s d rate.toNat
  else st

def throttleSession (s : Nat) (rateIn rateOut : Int) : State α :=
  if (st.session s).opened = 0 then st
  else if (st.session s).user = "" then st
  else (st.throttleDirection s .inward rateIn).throttleDirection s .outward rateOut

/-- The session is throttled in some direction. -/
def Throttled (s : Nat) : Prop :=
  (st.session s).throttle .inward ≠ 0 ∨ (st.session s).throttle .outward ≠ 0

instance (s : Nat) : Decidable (st.Throttled s) := inferInstanceAs (Decidable (_ ∨ _))

/-- The session is to be killed later. -/
def setDie (s : Nat) : State α :=
  st.setSession s { st.session s with
    die := if (st.session s).die = 0 then st.tbfs.time.toNat + 150 else (st.session s).die }

/-- What `sessionshutdown` does to the buckets. -/
def sessionshutdown (s : Nat) : State α :=
  if (st.session s).opened = 0 then st
  else
    let dying := st.setDie s
    if dying.Throttled s then dying.throttleSession s 0 0 else dying

def sessionclear (s : Nat) : State α := st.setSession s .zero

/-- Shut down the session that is linked to `s`. -/
def shutLinked (s : Nat) : State α :=
  let linked := (st.session s).forwardtosession
  if linked ≠ 0 ∧ (st.session linked).forwardtosession = s then st.sessionshutdown linked else st

def sessionkill (s : Nat) : State α :=
  if (st.session s).opened = 0 then st
  else if (st.session s).next ≠ 0 then st
  else
    let shut := if (st.session s).die = 0 then st.sessionshutdown s else st
    (shut.shutLinked s).sessionclear s

/-- The end of `sessionsetup`. -/
def setupThrottle (s : Nat) : State α :=
  if st.Throttled s then
    st.throttleSession s ((st.session s).throttle .inward) ((st.session s).throttle .outward)
  else st

/-- What a new master makes of a session: buckets of the old one are forgotten. -/
def takeSession (s : Nat) : State α :=
  if (st.session s).opened = 0 then st.sessionclear s
  else
    (st.setSession s { st.session s with tbf := fun _ => 0 }).throttleSession s
      ((st.session s).throttle .inward) ((st.session s).throttle .outward)

/-- The walk over the sessions in `cluster_check_master`. -/
def clusterCheckMaster : State α := (List.range maxSession).foldl takeSession st

end State

inductive Event where
  | create (s opened : Nat)
  | link (s sess : Nat)
  | setUser (s : Nat) (user : String)
  | setRate (s : Nat) (d : Direction) (rate : Nat)
  | throttle (s : Nat) (rateIn rateOut : Int)
  | setup (s : Nat)
  | shutdown (s : Nat)
  | kill (s : Nat)

/-- A session is created in a slot that is not in use. -/
def Event.Enabled (st : State α) : Event → Prop
  | .create s opened => (st.session s).opened = 0 ∧ opened ≠ 0 ∧ s ≠ 0 ∧ s < maxSession
  | _ => True

def State.act (st : State α) : Event → State α
  | .create s opened => st.setSession s { Session.zero with opened := opened }
  | .link s sess => st.setSession s { st.session s with forwardtosession := sess }
  | .setUser s user => st.setSession s { st.session s with user := user }
  | .setRate s d rate => st.setThrottle s d rate
  | .throttle s rateIn rateOut => st.throttleSession s rateIn rateOut
  | .setup s => st.setupThrottle s
  | .shutdown s => st.sessionshutdown s
  | .kill s => st.sessionkill s

/-- A slave from which a master is made: its sessions are any, within the table and without the
first one, and no bucket is in use but the first, which is reserved. -/
structure State.Slave (st : State α) : Prop where
  first : (st.session 0).opened = 0
  beyond : ∀ s, maxSession ≤ s → (st.session s).opened = 0
  reserved : (st.tbfs.bucket 0).sid ≠ 0
  unused : ∀ id, 1 ≤ id → (st.tbfs.bucket id).sid = 0

def system (α : Type) : Foundation.TransitionSystem (State α) Event where
  initial st := ∃ slave : State α, slave.Slave ∧ st = slave.clusterCheckMaster
  step st event next := event.Enabled st ∧ next = st.act event

/-- The buckets of live sessions are their own, in one direction each, and all buckets in use are
such. -/
structure Owned (live : Nat → Prop) (st : State α) : Prop where
  mine : ∀ s, live s → ∀ d, (st.session s).tbf d ≠ 0 →
    (st.tbfs.bucket ((st.session s).tbf d)).sid = s
  apart : ∀ s, live s → ∀ d d', (st.session s).tbf d ≠ 0 →
    (st.session s).tbf d = (st.session s).tbf d' → d = d'
  named : ∀ id, 1 ≤ id → (st.tbfs.bucket id).sid ≠ 0 →
    live (st.tbfs.bucket id).sid ∧ ∃ d, (st.session (st.tbfs.bucket id).sid).tbf d = id
  reserved : (st.tbfs.bucket 0).sid ≠ 0
  real : ¬ live 0

/-- The session is open. -/
def State.Live (st : State α) (s : Nat) : Prop := (st.session s).opened ≠ 0

/-- The session has no buckets, or shutting it down frees them. -/
def State.Clean (st : State α) (s : Nat) : Prop :=
  (∀ d, (st.session s).tbf d = 0) ∨
    (st.session s).die = 0 ∧ (st.session s).user ≠ "" ∧ st.Throttled s

/-- No session is killed that has buckets left. -/
def Event.Keeps (st : State α) : Event → Prop
  | .kill s => (st.session s).opened ≠ 0 → (st.session s).next = 0 → st.Clean s
  | _ => True

/-- What is to hold in every state: the buckets of open sessions are distinct and their own, and
each bucket in use is that of an open session. -/
structure State.BucketsOwned (st : State α) : Prop where
  distinct : ∀ s s' d d', st.Live s → st.Live s' → (st.session s).tbf d ≠ 0 →
    (st.session s).tbf d = (st.session s').tbf d' → s = s' ∧ d = d'
  mine : ∀ s d, st.Live s → (st.session s).tbf d ≠ 0 →
    (st.tbfs.bucket ((st.session s).tbf d)).sid = s
  named : ∀ id, 1 ≤ id → (st.tbfs.bucket id).sid ≠ 0 →
    st.Live (st.tbfs.bucket id).sid ∧ ∃ d, (st.session (st.tbfs.bucket id).sid).tbf d = id

namespace Owned

variable {live : Nat → Prop} {st : State α}

theorem bucketsOwned (owned : Owned st.Live st) : st.BucketsOwned := by
  refine ⟨fun s s' d d' here there real same => ?_, fun s d here => owned.mine s here d,
    owned.named⟩
  have first := owned.mine s here d real
  have second := owned.mine s' there d' (same ▸ real)
  rw [← same] at second
  have sessions : s = s' := first.symm.trans second
  rw [← sessions] at same
  exact ⟨sessions, owned.apart s here d d' real same⟩

theorem congr {next : State α} (owned : Owned live st)
    (tbf : ∀ s, live s → (next.session s).tbf = (st.session s).tbf)
    (sid : ∀ id, (next.tbfs.bucket id).sid = (st.tbfs.bucket id).sid) : Owned live next where
  mine s here d real := by
    rw [tbf s here] at real ⊢
    rw [sid]
    exact owned.mine s here d real
  apart s here d d' real same := by
    rw [tbf s here] at real same
    exact owned.apart s here d d' real same
  named id positive used := by
    rw [sid] at used ⊢
    obtain ⟨here, d, same⟩ := owned.named id positive used
    rw [tbf _ here]
    exact ⟨here, d, same⟩
  reserved := by
    rw [sid]
    exact owned.reserved
  real := owned.real

theorem setSession (owned : Owned live st) (s : Nat) {record : Session}
    (same : record.tbf = (st.session s).tbf) : Owned live (st.setSession s record) := by
  refine owned.congr (fun t _ => ?_) fun _ => rfl
  rw [State.setSession]
  dsimp only
  by_cases here : t = s
  · rw [here, update_self]
    exact same
  · rw [update_of_ne here]

theorem setThrottle (owned : Owned live st) (s : Nat) (d : Direction) (rate : Nat) :
    Owned live (st.setThrottle s d rate) := owned.setSession s rfl

end Owned

namespace State

variable {st : State α}

theorem release_tbf (s t : Nat) (d d' : Direction) :
    ((st.release s d).session t).tbf d' =
      if t = s ∧ d' = d then 0 else (st.session t).tbf d' := by
  rw [release]
  dsimp only
  by_cases here : t = s
  · rw [here, update_self]
    dsimp only
    by_cases along : d' = d
    · rw [along, update_self, if_pos ⟨rfl, rfl⟩]
    · rw [update_of_ne along, if_neg fun both => along both.2]
  · rw [update_of_ne here, if_neg fun both => here both.1]

theorem release_sid (s : Nat) (d : Direction) (id : Nat) :
    ((st.release s d).tbfs.bucket id).sid =
      if (st.session s).tbf d ≠ 0 ∧ id = (st.session s).tbf d then 0
      else (st.tbfs.bucket id).sid := by
  rw [release]
  dsimp only
  by_cases has : (st.session s).tbf d ≠ 0
  · rw [if_pos has, Tbfs.freeTbf_sid _ (Nat.one_le_iff_ne_zero.mpr has)]
    by_cases here : id = (st.session s).tbf d
    · rw [if_pos here, if_pos ⟨has, here⟩]
    · rw [if_neg here, if_neg fun both => here both.2]
  · rw [if_neg has, if_neg fun both => has both.1]

end State

namespace Owned

variable {live : Nat → Prop} {st : State α}

theorem release (owned : Owned live st) {s : Nat} (here : live s) (d : Direction) :
    Owned live (st.release s d) where
  mine t there d' real := by
    rw [State.release_tbf] at real ⊢
    by_cases freed : t = s ∧ d' = d
    · rw [if_pos freed] at real
      exact absurd rfl real
    · rw [if_neg freed] at real ⊢
      rw [State.release_sid, if_neg]
      · exact owned.mine t there d' real
      · rintro ⟨has, same⟩
        have mine := owned.mine t there d' real
        rw [same] at mine
        have sessions : t = s := mine.symm.trans (owned.mine s here d has)
        rw [sessions] at real same
        exact freed ⟨sessions, owned.apart s here d' d real same⟩
  apart t there d₁ d₂ real same := by
    rw [State.release_tbf] at real same
    by_cases freed : t = s ∧ d₁ = d
    · rw [if_pos freed] at real
      exact absurd rfl real
    · rw [if_neg freed] at real same
      rw [State.release_tbf] at same
      by_cases other : t = s ∧ d₂ = d
      · rw [if_pos other] at same
        exact absurd same real
      · rw [if_neg other] at same
        exact owned.apart t there d₁ d₂ real same
  named id positive used := by
    rw [State.release_sid] at used ⊢
    by_cases freed : (st.session s).tbf d ≠ 0 ∧ id = (st.session s).tbf d
    · rw [if_pos freed] at used
      exact absurd rfl used
    · rw [if_neg freed] at used ⊢
      obtain ⟨there, d', same⟩ := owned.named id positive used
      refine ⟨there, d', ?_⟩
      rw [State.release_tbf, if_neg]
      · exact same
      · rintro ⟨session, direction⟩
        rw [session, direction] at same
        exact freed ⟨same ▸ Nat.one_le_iff_ne_zero.mp positive, same.symm⟩
  reserved := by
    rw [State.release_sid, if_neg fun both => both.1 both.2.symm]
    exact owned.reserved
  real := owned.real

theorem acquire (owned : Owned live st) {s : Nat} (here : live s) {d : Direction}
    (none : (st.session s).tbf d = 0) (maxCredit rate : Int) :
    Owned live (st.acquire s d maxCredit rate) := by
  have positive : s ≠ 0 := fun zero => owned.real (zero ▸ here)
  have updated : ∀ id t d', (update st.session s { st.session s with
      tbf := update (st.session s).tbf d id } t).tbf d' =
      if t = s ∧ d' = d then id else (st.session t).tbf d' := by
    intro id t d'
    by_cases same : t = s
    · rw [same, update_self]
      dsimp only
      by_cases along : d' = d
      · rw [along, update_self, if_pos ⟨rfl, rfl⟩]
      · rw [update_of_ne along, if_neg fun both => along both.2]
    · rw [update_of_ne same, if_neg fun both => same both.1]
  rw [State.acquire]
  have allocates := @Tbfs.newTbf_allocates α st.tbfs s maxCredit rate d
  generalize st.tbfs.newTbf s maxCredit rate d = result at allocates ⊢
  cases allocates with
  | none p =>
      refine owned.congr (fun t _ => ?_) fun _ => rfl
      funext d'
      rw [updated]
      by_cases both : t = s ∧ d' = d
      · rw [if_pos both, both.1, both.2, none]
      · rw [if_neg both]
  | some p id free =>
      have taken : id ≠ 0 := by
        intro zero
        rw [zero] at free
        exact owned.reserved free
      have fresh : ∀ t, live t → ∀ d', (st.session t).tbf d' = id → False := by
        intro t there d' same
        have mine := owned.mine t there d' (same ▸ taken)
        rw [same, free] at mine
        exact owned.real (mine ▸ there)
      constructor
      · intro t there d' real
        dsimp only at real ⊢
        rw [updated] at real ⊢
        rw [Tbfs.setBucket_bucket]
        by_cases both : t = s ∧ d' = d
        · rw [if_pos both, update_self, both.1]
        · rw [if_neg both] at real ⊢
          rw [update_of_ne fun same => fresh t there d' same]
          exact owned.mine t there d' real
      · intro t there d₁ d₂ real same
        dsimp only at real same
        rw [updated] at real same
        rw [updated] at same
        by_cases first : t = s ∧ d₁ = d
        · rw [if_pos first] at same
          by_cases second : t = s ∧ d₂ = d
          · rw [first.2, second.2]
          · rw [if_neg second] at same
            exact (fresh t there d₂ same.symm).elim
        · rw [if_neg first] at real same
          by_cases second : t = s ∧ d₂ = d
          · rw [if_pos second] at same
            exact (fresh t there d₁ same).elim
          · rw [if_neg second] at same
            exact owned.apart t there d₁ d₂ real same
      · intro other real used
        dsimp only at used ⊢
        rw [Tbfs.setBucket_bucket] at used ⊢
        by_cases same : other = id
        · rw [same, update_self]
          refine ⟨here, d, ?_⟩
          rw [updated, if_pos ⟨rfl, rfl⟩]
        · rw [update_of_ne same] at used ⊢
          obtain ⟨there, d', named⟩ := owned.named other real used
          refine ⟨there, d', ?_⟩
          rw [updated, if_neg]
          · exact named
          · rintro ⟨session, direction⟩
            rw [session, direction, none] at named
            exact Nat.one_le_iff_ne_zero.mp real named.symm
      · dsimp only
        rw [Tbfs.setBucket_bucket, update_of_ne taken.symm]
        exact owned.reserved
      · exact owned.real

end Owned

/-- What throttling leaves of a session. -/
structure Rest where
  opened : Nat
  user : String
  die : Nat
  next : Nat
  forwardtosession : Nat

def Session.rest (s : Session) : Rest := ⟨s.opened, s.user, s.die, s.next, s.forwardtosession⟩

namespace State

variable {st : State α}

theorem update_rest (s t : Nat) {record : Session} (same : record.rest = (st.session s).rest) :
    (update st.session s record t).rest = (st.session t).rest := by
  by_cases here : t = s
  · rw [here, update_self]
    exact same
  · rw [update_of_ne here]

variable (s t : Nat) (d : Direction)

theorem release_rest :
    ((st.release s d).session t).rest = (st.session t).rest := update_rest s t rfl

theorem acquire_rest (maxCredit rate : Int) :
    ((st.acquire s d maxCredit rate).session t).rest = (st.session t).rest := update_rest s t rfl

theorem setThrottle_rest (rate : Nat) :
    ((st.setThrottle s d rate).session t).rest = (st.session t).rest := update_rest s t rfl

theorem throttleDirection_rest (rate : Int) :
    ((st.throttleDirection s d rate).session t).rest = (st.session t).rest := by
  rw [throttleDirection]
  split
  · dsimp only
    split
    · rw [setThrottle_rest, acquire_rest, release_rest]
    · rw [setThrottle_rest, release_rest]
  · rfl

theorem throttleSession_rest (s t : Nat) (rateIn rateOut : Int) :
    ((st.throttleSession s rateIn rateOut).session t).rest = (st.session t).rest := by
  rw [throttleSession]
  split
  · rfl
  split
  · rfl
  · rw [throttleDirection_rest, throttleDirection_rest]

theorem throttleSession_live (rateIn rateOut : Int) :
    (st.throttleSession s rateIn rateOut).Live = st.Live :=
  funext fun t => congrArg (fun rest : Rest => rest.opened ≠ 0) (throttleSession_rest s t _ _)

theorem setThrottle_tbf (rate : Nat) :
    ((st.setThrottle s d rate).session t).tbf = (st.session t).tbf := by
  rw [setThrottle, setSession]
  dsimp only
  by_cases here : t = s
  · rw [here, update_self]
  · rw [update_of_ne here]

theorem throttleDirection_zero (d' : Direction) :
    ((st.throttleDirection s d 0).session t).tbf d' =
      if t = s ∧ d' = d then 0 else (st.session t).tbf d' := by
  rw [throttleDirection, if_pos (Int.le_refl 0)]
  dsimp only
  rw [if_neg (Int.lt_irrefl 0), setThrottle_tbf, release_tbf]

theorem throttleSession_none {t : Nat} (none : ∀ d, (st.session t).tbf d = 0) (s : Nat)
    (d : Direction) : ((st.throttleSession s 0 0).session t).tbf d = 0 := by
  rw [throttleSession]
  split
  · exact none d
  split
  · exact none d
  · rw [throttleDirection_zero, throttleDirection_zero, none, ite_self, ite_self]

theorem throttleSession_frees {s : Nat} (live : st.Live s) (user : (st.session s).user ≠ "")
    (d : Direction) : ((st.throttleSession s 0 0).session s).tbf d = 0 := by
  rw [throttleSession, if_neg live, if_neg user, throttleDirection_zero, throttleDirection_zero]
  cases d with
  | inward =>
      rw [if_neg, if_pos ⟨rfl, rfl⟩]
      exact fun both => nomatch both.2
  | outward => rw [if_pos ⟨rfl, rfl⟩]

end State

namespace Owned

variable {live : Nat → Prop} {st : State α}

theorem throttleDirection (owned : Owned live st) {s : Nat} (here : live s) (d : Direction)
    (rate : Int) : Owned live (st.throttleDirection s d rate) := by
  have released := owned.release here d
  rw [State.throttleDirection]
  split
  · dsimp only
    split
    · refine (released.acquire here ?_ _ _).setThrottle s d _
      rw [State.release_tbf, if_pos ⟨rfl, rfl⟩]
    · exact released.setThrottle s d _
  · exact owned

theorem throttleSession (owned : Owned live st) {s : Nat} (here : live s) (rateIn rateOut : Int) :
    Owned live (st.throttleSession s rateIn rateOut) := by
  rw [State.throttleSession]
  split
  · exact owned
  split
  · exact owned
  · exact (owned.throttleDirection here _ _).throttleDirection here _ _

end Owned

namespace State

variable {st : State α}

theorem setSession_live {s : Nat} {record : Session}
    (same : record.opened = (st.session s).opened) : (st.setSession s record).Live = st.Live := by
  funext t
  rw [Live, Live, setSession]
  dsimp only
  by_cases here : t = s
  · rw [here, update_self, same]
  · rw [update_of_ne here]

theorem setSession_tbf {s : Nat} {record : Session} (same : record.tbf = (st.session s).tbf)
    (t : Nat) : ((st.setSession s record).session t).tbf = (st.session t).tbf := by
  rw [setSession]
  dsimp only
  by_cases here : t = s
  · rw [here, update_self, same]
  · rw [update_of_ne here]

theorem setDie_live (s : Nat) : (st.setDie s).Live = st.Live := setSession_live rfl

theorem setDie_tbf (s t : Nat) : ((st.setDie s).session t).tbf = (st.session t).tbf := by
  rw [setDie]
  exact setSession_tbf (by rfl) t

theorem sessionshutdown_live (s : Nat) : (st.sessionshutdown s).Live = st.Live := by
  rw [sessionshutdown]
  split
  · rfl
  · dsimp only
    split
    · rw [throttleSession_live, setDie_live]
    · exact setDie_live s

theorem sessionshutdown_none {t : Nat} (none : ∀ d, (st.session t).tbf d = 0) (s : Nat)
    (d : Direction) : ((st.sessionshutdown s).session t).tbf d = 0 := by
  have dying : ∀ d, ((st.setDie s).session t).tbf d = 0 := by
    intro d
    rw [setDie_tbf]
    exact none d
  rw [sessionshutdown]
  split
  · exact none d
  · dsimp only
    split
    · exact throttleSession_none dying s d
    · exact dying d

theorem sessionshutdown_frees {s : Nat} (live : st.Live s) (user : (st.session s).user ≠ "")
    (throttled : st.Throttled s) (d : Direction) :
    ((st.sessionshutdown s).session s).tbf d = 0 := by
  have record : (st.setDie s).session s = { st.session s with
      die := if (st.session s).die = 0 then st.tbfs.time.toNat + 150
        else (st.session s).die } := update_self ..
  have still : (st.setDie s).Throttled s := by
    rw [Throttled, record]
    exact throttled
  rw [sessionshutdown, if_neg live]
  dsimp only
  rw [if_pos still]
  refine throttleSession_frees ?_ ?_ d
  · rw [setDie_live]
    exact live
  · rw [record]
    exact user

end State

namespace Owned

variable {live : Nat → Prop} {st : State α}

theorem setDie (owned : Owned live st) (s : Nat) : Owned live (st.setDie s) := by
  rw [State.setDie]
  exact owned.setSession s (by rfl)

theorem sessionshutdown (owned : Owned st.Live st) (s : Nat) :
    Owned st.Live (st.sessionshutdown s) := by
  rw [State.sessionshutdown]
  by_cases closed : (st.session s).opened = 0
  · rw [if_pos closed]
    exact owned
  rw [if_neg closed]
  dsimp only
  split
  · exact (owned.setDie s).throttleSession closed 0 0
  · exact owned.setDie s

/-- A session without buckets is forgotten. -/
theorem sessionclear (owned : Owned st.Live st) {s : Nat} (none : ∀ d, (st.session s).tbf d = 0) :
    Owned (st.sessionclear s).Live (st.sessionclear s) := by
  have other : ∀ t, (st.sessionclear s).Live t → t ≠ s ∧ st.Live t := by
    intro t live
    by_cases here : t = s
    · rw [State.Live, here, State.sessionclear, State.setSession] at live
      dsimp only at live
      rw [update_self] at live
      exact absurd rfl live
    · rw [State.Live, State.sessionclear, State.setSession] at live
      dsimp only at live
      rw [update_of_ne here] at live
      exact ⟨here, live⟩
  have same : ∀ t, t ≠ s → (st.sessionclear s).session t = st.session t := fun t away =>
    update_of_ne away _ _
  constructor
  · intro t live d real
    obtain ⟨away, before⟩ := other t live
    rw [same t away] at real ⊢
    exact owned.mine t before d real
  · intro t live d d' real equal
    obtain ⟨away, before⟩ := other t live
    rw [same t away] at real equal
    exact owned.apart t before d d' real equal
  · intro id positive used
    obtain ⟨before, d, named⟩ := owned.named id positive used
    have away : (st.tbfs.bucket id).sid ≠ s := by
      intro here
      rw [here, none] at named
      exact Nat.one_le_iff_ne_zero.mp positive named.symm
    refine ⟨?_, d, ?_⟩
    · rw [State.Live]
      change ((st.sessionclear s).session (st.tbfs.bucket id).sid).opened ≠ 0
      rw [same _ away]
      exact before
    · change ((st.sessionclear s).session (st.tbfs.bucket id).sid).tbf d = id
      rw [same _ away]
      exact named
  · exact owned.reserved
  · exact fun live => owned.real (other 0 live).2

theorem sessionkill (owned : Owned st.Live st) (s : Nat)
    (clean : (st.session s).opened ≠ 0 → (st.session s).next = 0 → st.Clean s) :
    Owned (st.sessionkill s).Live (st.sessionkill s) := by
  rw [State.sessionkill]
  by_cases closed : (st.session s).opened = 0
  · rw [if_pos closed]
    exact owned
  rw [if_neg closed]
  by_cases free : (st.session s).next = 0
  · rw [if_neg (not_not.mpr free)]
    have clean := clean closed free
    dsimp only
    have shut : ∃ shut, (if (st.session s).die = 0 then st.sessionshutdown s else st) = shut ∧
        Owned shut.Live shut ∧ ∀ d, (shut.session s).tbf d = 0 := by
      refine ⟨_, rfl, ?_⟩
      by_cases alive : (st.session s).die = 0
      · rw [if_pos alive]
        refine ⟨?_, ?_⟩
        · rw [State.sessionshutdown_live]
          exact owned.sessionshutdown s
        · rcases clean with none | ⟨_, user, throttled⟩
          · exact State.sessionshutdown_none none s
          · exact State.sessionshutdown_frees closed user throttled
      · rw [if_neg alive]
        exact ⟨owned, clean.resolve_right fun both => alive both.1⟩
    obtain ⟨shut, same, owns, none⟩ := shut
    rw [same, State.shutLinked]
    split
    · refine sessionclear ?_ (State.sessionshutdown_none none _)
      rw [State.sessionshutdown_live]
      exact owns.sessionshutdown _
    · exact sessionclear owns none
  · rw [if_pos free]
    exact owned

end Owned

namespace Owned

variable {live : Nat → Prop} {st : State α}

/-- A session without buckets may become live. -/
theorem extend (owned : Owned live st) {s : Nat} (real : s ≠ 0)
    (none : ∀ d, (st.session s).tbf d = 0) : Owned (fun t => t = s ∨ live t) st where
  mine t here d has := by
    rcases here with same | before
    · rw [same, none] at has
      exact absurd rfl has
    · exact owned.mine t before d has
  apart t here d d' has same := by
    rcases here with new | before
    · rw [new, none] at has
      exact absurd rfl has
    · exact owned.apart t before d d' has same
  named id positive used := by
    obtain ⟨before, named⟩ := owned.named id positive used
    exact ⟨.inr before, named⟩
  reserved := owned.reserved
  real here := here.elim real.symm owned.real

theorem setSession_of_not_live (owned : Owned live st) {s : Nat} (away : ¬ live s)
    (record : Session) : Owned live (st.setSession s record) := by
  refine owned.congr (fun t here => ?_) fun _ => rfl
  have other : t ≠ s := fun same => away (same ▸ here)
  have same : (st.setSession s record).session t = st.session t :=
    update_of_ne other _ _
  rw [same]

theorem update (owned : Owned st.Live st) (s : Nat) {record : Session}
    (opened : record.opened = (st.session s).opened) (tbf : record.tbf = (st.session s).tbf) :
    Owned (st.setSession s record).Live (st.setSession s record) := by
  rw [State.setSession_live opened]
  exact owned.setSession s tbf

theorem create (owned : Owned st.Live st) {s opened : Nat} (free : (st.session s).opened = 0)
    (used : opened ≠ 0) (real : s ≠ 0) :
    Owned (st.setSession s { Session.zero with opened := opened }).Live
      (st.setSession s { Session.zero with opened := opened }) := by
  have record : (st.setSession s { Session.zero with opened := opened }).session s =
      { Session.zero with opened := opened } := update_self ..
  have live : (st.setSession s { Session.zero with opened := opened }).Live =
      fun t => t = s ∨ st.Live t := by
    funext t
    by_cases here : t = s
    · rw [State.Live, here, record]
      exact propext (iff_of_true used (.inl rfl))
    · have same : (st.setSession s { Session.zero with opened := opened }).session t =
          st.session t := update_of_ne here _ _
      rw [State.Live, same]
      exact propext ⟨.inr, fun either => either.resolve_left here⟩
  rw [live]
  refine (owned.setSession_of_not_live (fun live => live free) _).extend real fun d => ?_
  rw [record]
  rfl

end Owned

/-- What holds of a new master after it has gone over the sessions below `n`. -/
structure Taken (n : Nat) (st : State α) : Prop where
  owned : Owned (fun s => s < n ∧ st.Live s) st
  first : (st.session 0).opened = 0
  beyond : ∀ s, maxSession ≤ s → (st.session s).opened = 0

namespace Taken

variable {n : Nat} {st : State α}

theorem start (slave : st.Slave) : Taken 0 st where
  owned :=
    { mine := fun _ here => nomatch here.1
      apart := fun _ here => nomatch here.1
      named := fun id positive used => absurd (slave.unused id positive) used
      reserved := slave.reserved
      real := fun here => nomatch here.1 }
  first := slave.first
  beyond := slave.beyond

theorem clear (taken : Taken n st) (closed : (st.session n).opened = 0) :
    Taken (n + 1) (st.sessionclear n) := by
  have same : ∀ t, ((st.sessionclear n).session t).opened = (st.session t).opened := by
    intro t
    rw [State.sessionclear, State.setSession]
    dsimp only
    by_cases here : t = n
    · rw [here, update_self, closed]
      rfl
    · rw [update_of_ne here]
  have live : (fun s => s < n + 1 ∧ (st.sessionclear n).Live s) =
      fun s => s < n ∧ st.Live s := by
    funext s
    rw [State.Live, State.Live, same]
    refine propext ⟨fun ⟨below, open_⟩ => ⟨?_, open_⟩, fun ⟨below, open_⟩ => ⟨?_, open_⟩⟩
    · exact Nat.lt_of_le_of_ne (Nat.lt_succ_iff.mp below) fun here => open_ (here ▸ closed)
    · exact Nat.lt_succ_of_lt below
  refine ⟨?_, (same 0).trans taken.first, fun s past => (same s).trans (taken.beyond s past)⟩
  rw [live]
  exact taken.owned.setSession_of_not_live (fun here => Nat.lt_irrefl n here.1) _

theorem throttle (taken : Taken n st) (open_ : st.Live n) (rateIn rateOut : Int) :
    Taken (n + 1)
      ((st.setSession n { st.session n with tbf := fun _ => 0 }).throttleSession n rateIn
        rateOut) := by
  have rest : ∀ t, (((st.setSession n { st.session n with tbf := fun _ => 0 }).throttleSession n
      rateIn rateOut).session t).opened = (st.session t).opened := by
    intro t
    have same := @State.throttleSession_rest α
      (st.setSession n { st.session n with tbf := fun _ => 0 }) n t rateIn rateOut
    have before := @State.update_rest α st n t { st.session n with tbf := fun _ => 0 } rfl
    exact congrArg Rest.opened (same.trans before)
  have live : (fun s => s < n + 1 ∧ ((st.setSession n { st.session n with
      tbf := fun _ => 0 }).throttleSession n rateIn rateOut).Live s) =
      fun s => s = n ∨ s < n ∧ st.Live s := by
    funext s
    rw [State.Live, State.Live, rest]
    refine propext ⟨fun ⟨below, live⟩ => ?_, fun either => ?_⟩
    · rcases Nat.lt_succ_iff_lt_or_eq.mp below with before | here
      · exact .inr ⟨before, live⟩
      · exact .inl here
    · rcases either with here | ⟨before, live⟩
      · exact ⟨here ▸ Nat.lt_succ_self n, here ▸ open_⟩
      · exact ⟨Nat.lt_succ_of_lt before, live⟩
  have real : n ≠ 0 := by
    intro zero
    rw [zero] at open_
    exact open_ taken.first
  refine ⟨?_, (rest 0).trans taken.first, fun s past => (rest s).trans (taken.beyond s past)⟩
  rw [live]
  refine Owned.throttleSession ?_ (.inl rfl) rateIn rateOut
  refine (taken.owned.setSession_of_not_live (fun here => Nat.lt_irrefl n here.1) _).extend real
    fun d => ?_
  rw [State.setSession]
  dsimp only
  rw [update_self]

theorem takeSession (taken : Taken n st) : Taken (n + 1) (st.takeSession n) := by
  rw [State.takeSession]
  split
  · rename_i closed
    exact taken.clear closed
  · rename_i open_
    exact taken.throttle open_ _ _

theorem range (slave : st.Slave) (n : Nat) :
    Taken n ((List.range n).foldl State.takeSession st) := by
  induction n with
  | zero => exact start slave
  | succ n ih =>
      rw [List.range_succ, List.foldl_append, List.foldl_cons, List.foldl_nil]
      exact ih.takeSession

end Taken

theorem clusterCheckMaster_owned {st : State α} (slave : st.Slave) :
    Owned st.clusterCheckMaster.Live st.clusterCheckMaster := by
  have taken := Taken.range slave maxSession
  rw [State.clusterCheckMaster]
  generalize (List.range maxSession).foldl State.takeSession st = master at taken
  have live : (fun s => s < maxSession ∧ master.Live s) = master.Live := by
    funext s
    refine propext ⟨And.right, fun live => ⟨?_, live⟩⟩
    exact Nat.lt_of_not_le fun past => live (taken.beyond s past)
  have owned := taken.owned
  rw [live] at owned
  exact owned

theorem Owned.act {st : State α} (owned : Owned st.Live st) {event : Event}
    (enabled : event.Enabled st) (keeps : event.Keeps st) :
    Owned (st.act event).Live (st.act event) := by
  have throttled : ∀ s rateIn rateOut, st.Live s →
      Owned (st.throttleSession s rateIn rateOut).Live (st.throttleSession s rateIn rateOut) := by
    intro s rateIn rateOut live
    rw [State.throttleSession_live]
    exact owned.throttleSession live rateIn rateOut
  have throttles : ∀ s rateIn rateOut,
      Owned (st.throttleSession s rateIn rateOut).Live (st.throttleSession s rateIn rateOut) := by
    intro s rateIn rateOut
    by_cases closed : (st.session s).opened = 0
    · rw [State.throttleSession, if_pos closed]
      exact owned
    · exact throttled s rateIn rateOut closed
  cases event with
  | create s opened => exact owned.create enabled.1 enabled.2.1 enabled.2.2.1
  | link s sess =>
      exact @Owned.update α st owned s { st.session s with forwardtosession := sess } rfl rfl
  | setUser s user =>
      exact @Owned.update α st owned s { st.session s with user := user } rfl rfl
  | setRate s d rate => exact @Owned.update α st owned s { st.session s with
      throttle := Function.update (st.session s).throttle d (rate % 2 ^ 16) } rfl rfl
  | throttle s rateIn rateOut => exact throttles s rateIn rateOut
  | setup s =>
      rw [State.act, State.setupThrottle]
      split
      · exact throttles s _ _
      · exact owned
  | shutdown s =>
      rw [State.act, State.sessionshutdown_live]
      exact owned.sessionshutdown s
  | kill s => exact owned.sessionkill s keeps

/-- The invariant of a run. -/
def State.Sound (st : State α) : Prop := Owned st.Live st

theorem sound_of_reachable {st : State α}
    (reached : (system α).ReachableUnder Event.Keeps st) : st.Sound := by
  refine reached.invariant ?_ ?_
  · intro master ⟨slave, unused, start⟩
    rw [State.Sound, start]
    exact clusterCheckMaster_owned unused
  · intro st event next sound keeps leads
    rw [leads.2]
    exact Owned.act sound leads.1 keeps

/-- **Buckets have one owner.** In every run of a master in which no session is killed that has
buckets left, the buckets of the open sessions are distinct and their own, and each bucket in
use is that of an open session. -/
theorem buckets_owned {st : State α}
    (reached : (system α).ReachableUnder Event.Keeps st) : st.BucketsOwned :=
  (sound_of_reachable reached).bucketsOwned

theorem initial_of_idle {tbfs : Tbfs α} (reserved : (tbfs.bucket 0).sid ≠ 0)
    (unused : ∀ id, 1 ≤ id → (tbfs.bucket id).sid = 0) :
    (system α).initial ⟨fun _ => .zero, tbfs⟩ := by
  refine ⟨⟨fun _ => .zero, tbfs⟩, ⟨rfl, fun _ _ => rfl, reserved, unused⟩, ?_⟩
  have same : ∀ n, (List.range n).foldl State.takeSession ⟨fun _ => .zero, tbfs⟩ =
      ⟨fun _ => .zero, tbfs⟩ := by
    intro n
    induction n with
    | zero => rfl
    | succ n ih =>
        rw [List.range_succ, List.foldl_append, ih, List.foldl_cons, List.foldl_nil]
        have closed : ((State.mk (fun _ => .zero) tbfs).session n).opened = 0 := rfl
        rw [State.takeSession, if_pos closed, State.sessionclear, State.setSession]
        exact congrArg (State.mk · tbfs) (update_eq_self n _)
  exact (same maxSession).symm

/-- A master without sessions. -/
def idleMaster : State Unit where
  session := fun _ => .zero
  tbfs := ⟨6000, fun id => if id = 0 then { Tbf.empty with sid := 65535 } else .empty, [], 0, 0⟩

theorem idleMaster_initial : (system Unit).initial idleMaster :=
  initial_of_idle (by decide) fun _ positive =>
    congrArg Tbf.sid (if_neg (Nat.one_le_iff_ne_zero.mp positive))

def userMaster : State Unit := (idleMaster.act (.create 1 5)).act (.setUser 1 "u")

theorem userMaster_reachable : (system Unit).ReachableUnder Event.Keeps userMaster := by
  have created : (system Unit).ReachableUnder Event.Keeps (idleMaster.act (.create 1 5)) :=
    .step (.create 1 5) (.initial idleMaster_initial) trivial
      ⟨⟨rfl, by decide, by decide, by decide⟩, rfl⟩
  exact .step (.setUser 1 "u") created trivial ⟨trivial, rfl⟩

/-- The session is shut down, throttled and killed. -/
def leakedMaster : State Unit :=
  ((userMaster.act (.shutdown 1)).act (.throttle 1 100 (-1))).act (.kill 1)

theorem leakedMaster_reachable : (system Unit).Reachable leakedMaster := by
  have user : (system Unit).Reachable userMaster :=
    userMaster_reachable.weaken fun _ _ _ => trivial
  have shut : (system Unit).Reachable (userMaster.act (.shutdown 1)) :=
    .step (.shutdown 1) user trivial ⟨trivial, rfl⟩
  have throttled : (system Unit).Reachable
      ((userMaster.act (.shutdown 1)).act (.throttle 1 100 (-1))) :=
    .step (.throttle 1 100 (-1)) shut trivial ⟨trivial, rfl⟩
  exact .step (.kill 1) throttled trivial ⟨trivial, rfl⟩

/-- Its bucket stays in use, for a session that is not open. -/
theorem bucket_leaks : ¬ ∀ st, (system Unit).Reachable st → st.BucketsOwned := by
  intro owned
  have named := (owned _ leakedMaster_reachable).named 1 (by decide) (by decide)
  exact absurd named.1 (by rw [State.Live, not_not]; decide)

/-- A session that is throttled in both directions. -/
theorem buckets_owned_throttled : (userMaster.act (.throttle 1 100 100)).BucketsOwned :=
  buckets_owned (.step (.throttle 1 100 100) userMaster_reachable trivial ⟨trivial, rfl⟩)

end L2tpns.Server.Throttle
