import L2tpns.Server.AddressPool

/-! # Which address of the pool a session gets

`assign_ip_address` looks for three things in one scan: an entry that it remembers for
the user, an entry that was never used, and the entry unused for longest. It stops at the
first entry of the first two kinds, and an entry that was released in the current second
is none of the three. `L2tpns.Server.poolEntry_verdict` says what the scan returns, and
`L2tpns.Server.chooses_iff` when that is the right entry.
-/

namespace L2tpns.Server

open Foundation

variable {st : State} {s i : Nat}

/-- An entry with an address that is not assigned. -/
def Unassigned (st : State) (i : Nat) : Prop :=
  1 ≤ i ∧ i < st.ipPoolSize ∧ (st.ipAddressPool i).address ≠ 0 ∧
    (st.ipAddressPool i).assigned = false

/-- An unassigned entry that is remembered for the user of a session outside the
walled garden. -/
def Remembered (st : State) (s i : Nat) : Prop :=
  Unassigned st i ∧ (st.session s).walledGarden = false ∧ (st.ipAddressPool i).user ≠ [] ∧
    (st.session s).user = (st.ipAddressPool i).user

/-- An unassigned entry at which the scan stops because it was never used. -/
def NeverUsed (st : State) (i : Nat) : Prop :=
  Unassigned st i ∧ (st.ipAddressPool i).last = 0 ∧ 0 < st.timeNow

def poolEntry (st : State) (s : Nat) : Option Nat :=
  bestAddress st (st.session s).user (st.session s).walledGarden (st.ipPoolSize - 1) 1 none
    st.timeNow

/-- What `assign_ip_address` returns: whether the session got an address. -/
def assigns (st : State) (s : Nat) : Bool := (poolEntry st s).isSome

/-- The state of the scan at entry `i`: it passed neither a remembered nor a never used
entry, and the best one so far is the one unused for longest. -/
structure Scanned (st : State) (s i : Nat) (best : Option Nat) (bestTime : Nat) : Prop where
  forgotten : ∀ k, k < i → ¬ Remembered st s k
  used : ∀ k, k < i → ¬ NeverUsed st k
  oldest : ∀ k, k < i → Unassigned st k → bestTime ≤ (st.ipAddressPool k).last
  none_yet : best = none → bestTime = st.timeNow
  best_is : ∀ b, best = some b →
    Unassigned st b ∧ (st.ipAddressPool b).last = bestTime ∧ 0 < bestTime ∧
      bestTime < st.timeNow

/-- What a finished scan says. -/
inductive Verdict (st : State) (s : Nat) : Option Nat → Prop where
  | none (forgotten : ∀ k, ¬ Remembered st s k)
      (recent : ∀ k, Unassigned st k → st.timeNow ≤ (st.ipAddressPool k).last) : Verdict st s none
  | remembered {i : Nat} (own : Remembered st s i) (used : ∀ k, k < i → ¬ NeverUsed st k) :
      Verdict st s (some i)
  | neverUsed {i : Nat} (fresh : NeverUsed st i) (forgotten : ∀ k, k ≤ i → ¬ Remembered st s k) :
      Verdict st s (some i)
  | oldest {i : Nat} (unassigned : Unassigned st i) (forgotten : ∀ k, ¬ Remembered st s k)
      (past : (st.ipAddressPool i).last < st.timeNow)
      (least : ∀ k, Unassigned st k → (st.ipAddressPool i).last ≤ (st.ipAddressPool k).last) :
      Verdict st s (some i)

namespace Scanned

variable {best : Option Nat} {bestTime : Nat}

theorem pass (scanned : Scanned st s i best bestTime) (forgotten : ¬ Remembered st s i)
    (used : ¬ NeverUsed st i)
    (older : Unassigned st i → bestTime ≤ (st.ipAddressPool i).last) :
    Scanned st s (i + 1) best bestTime := by
  have passed : ∀ {property : Nat → Prop}, (∀ k, k < i → property k) → property i →
      ∀ k, k < i + 1 → property k := by
    intro property before own k below
    rcases Nat.lt_succ_iff_lt_or_eq.mp below with earlier | rfl
    · exact before k earlier
    · exact own
  exact ⟨passed scanned.forgotten forgotten, passed scanned.used used,
    passed scanned.oldest older, scanned.none_yet, scanned.best_is⟩

/-- One more entry is passed, and is the best one from now on. -/
theorem improve (scanned : Scanned st s i best bestTime) (forgotten : ¬ Remembered st s i)
    (used : ¬ NeverUsed st i) (unassigned : Unassigned st i)
    (older : (st.ipAddressPool i).last < bestTime) :
    Scanned st s (i + 1) (some i) (st.ipAddressPool i).last := by
  have past : bestTime ≤ st.timeNow := by
    cases best with
    | none => exact (scanned.none_yet rfl).le
    | some b => exact (scanned.best_is b rfl).2.2.2.le
  have positive : 0 < (st.ipAddressPool i).last :=
    Nat.pos_of_ne_zero fun never =>
      used ⟨unassigned, never, Nat.zero_lt_of_lt (older.trans_le past)⟩
  have replaced : Scanned st s i (some i) (st.ipAddressPool i).last :=
    { forgotten := scanned.forgotten
      used := scanned.used
      oldest := fun k below free => older.le.trans (scanned.oldest k below free)
      none_yet := nofun
      best_is := fun b same => by
        cases same
        exact ⟨unassigned, rfl, positive, older.trans_le past⟩ }
  exact replaced.pass forgotten used fun _ => le_rfl

/-- At the end of the pool. -/
theorem verdict (scanned : Scanned st s i best bestTime) (finished : st.ipPoolSize ≤ i) :
    Verdict st s best := by
  have inside : ∀ k, Unassigned st k → k < i := fun k free => free.2.1.trans_le finished
  have forgotten : ∀ k, ¬ Remembered st s k := fun k own =>
    scanned.forgotten k (inside k own.1) own
  have least : ∀ k, Unassigned st k → bestTime ≤ (st.ipAddressPool k).last := fun k free =>
    scanned.oldest k (inside k free) free
  cases best with
  | none => exact .none forgotten (scanned.none_yet rfl ▸ least)
  | some b =>
      obtain ⟨unassigned, time, -, past⟩ := scanned.best_is b rfl
      subst time
      exact .oldest unassigned forgotten past least

end Scanned

/-- The scan from any entry on. -/
theorem bestAddress_verdict {left : Nat} {best : Option Nat} {bestTime : Nat}
    (scanned : Scanned st s i best bestTime) (started : 1 ≤ i) (rest : st.ipPoolSize - i = left) :
    Verdict st s (bestAddress st (st.session s).user (st.session s).walledGarden left i best
      bestTime) := by
  induction left generalizing i best bestTime with
  | zero => exact scanned.verdict (Nat.sub_eq_zero_iff_le.mp rest)
  | succ left ih =>
      have inside : i < st.ipPoolSize := by omega
      have next : st.ipPoolSize - (i + 1) = left := by omega
      rw [bestAddress]
      by_cases taken : (st.ipAddressPool i).address = 0 ∨ (st.ipAddressPool i).assigned = true
      · have held : ¬ Unassigned st i := by
          rintro ⟨-, -, address, free⟩
          rcases taken with none | assigned
          · exact address none
          · exact Bool.noConfusion (free.symm.trans assigned)
        rw [if_pos taken]
        exact ih (scanned.pass (fun own => held own.1) (fun fresh => held fresh.1)
          fun free => absurd free held) (Nat.le_add_left 1 i) next
      have free : Unassigned st i :=
        ⟨started, inside, fun none => taken (.inl none),
          Bool.eq_false_iff.mpr fun assigned => taken (.inr assigned)⟩
      rw [if_neg taken]
      by_cases own : ¬ (st.session s).walledGarden = true ∧ (st.ipAddressPool i).user ≠ [] ∧
          (st.session s).user = (st.ipAddressPool i).user
      · rw [if_pos own]
        exact .remembered ⟨free, Bool.eq_false_iff.mpr own.1, own.2⟩ scanned.used
      have forgotten : ¬ Remembered st s i := fun remembered =>
        own ⟨Bool.eq_false_iff.mp remembered.2.1, remembered.2.2⟩
      rw [if_neg own]
      by_cases older : (st.ipAddressPool i).last < bestTime
      · rw [if_pos older]
        by_cases fresh : (st.ipAddressPool i).last = 0
        · rw [if_pos fresh]
          have clock : 0 < st.timeNow := by
            cases best with
            | none => exact scanned.none_yet rfl ▸ Nat.zero_lt_of_lt older
            | some b => exact Nat.zero_lt_of_lt (scanned.best_is b rfl).2.2.2
          refine .neverUsed ⟨free, fresh, clock⟩ fun k upTo => ?_
          rcases Nat.lt_or_eq_of_le upTo with earlier | rfl
          · exact scanned.forgotten k earlier
          · exact forgotten
        · rw [if_neg fresh]
          exact ih (scanned.improve forgotten (fun never => fresh never.2.1) free older)
            (Nat.le_add_left 1 i) next
      · rw [if_neg older]
        have used : ¬ NeverUsed st i := by
          rintro ⟨-, never, clock⟩
          have positive : 0 < bestTime := by
            cases best with
            | none => exact (scanned.none_yet rfl).symm ▸ clock
            | some b => exact (scanned.best_is b rfl).2.2.1
          exact older (never ▸ positive)
        exact ih (scanned.pass forgotten used fun _ => Nat.le_of_not_lt older)
          (Nat.le_add_left 1 i) next

theorem poolEntry_verdict (st : State) (s : Nat) : Verdict st s (poolEntry st s) := by
  have beginning : Scanned st s 1 none st.timeNow :=
    { forgotten := fun k first own => absurd own.1.1 (Nat.not_le_of_lt first)
      used := fun k first fresh => absurd fresh.1.1 (Nat.not_le_of_lt first)
      oldest := fun k first free => absurd free.1 (Nat.not_le_of_lt first)
      none_yet := fun _ => rfl
      best_is := nofun }
  exact bestAddress_verdict beginning le_rfl rfl

theorem poolEntry_unassigned (found : poolEntry st s = some i) : Unassigned st i := by
  have verdict := poolEntry_verdict st s
  rw [found] at verdict
  cases verdict with
  | remembered own _ => exact own.1
  | neverUsed fresh _ => exact fresh.1
  | oldest unassigned _ _ _ => exact unassigned

/-- The right entry for a session: one that is remembered for its user if there is one,
and otherwise one unused for longest. -/
def RightEntry (st : State) (s i : Nat) : Prop :=
  Unassigned st i ∧ ((∃ k, Remembered st s k) → Remembered st s i) ∧
    ((¬ ∃ k, Remembered st s k) →
      ∀ k, Unassigned st k → (st.ipAddressPool i).last ≤ (st.ipAddressPool k).last)

/-- An entry was given to a session, and no other entry changed. -/
structure GivenTo (st st' : State) (s i : Nat) : Prop where
  ip : (st'.session s).ip = (st.ipAddressPool i).address
  index : (st'.session s).ipPoolIndex = i
  assigned : (st'.ipAddressPool i).assigned = true
  session : (st'.ipAddressPool i).session = s
  others : ∀ k, k ≠ i → st'.ipAddressPool k = st.ipAddressPool k

/-- A session gets an address if and only if one is unassigned, and it gets the right
one. -/
structure Chooses (st : State) (s : Nat) : Prop where
  succeeds : assigns st s = true ↔ ∃ i, Unassigned st i
  chosen : assigns st s = true →
    ∃ i, RightEntry st s i ∧ GivenTo st (assignIpAddress st s) s i

/-- What the scan needs to find the right entry: something that it looks for, unless all
entries are assigned, and no never used entry before the first remembered one. -/
def Findable (st : State) (s : Nat) : Prop :=
  ((∃ i, Unassigned st i) →
    ∃ i, Unassigned st i ∧ (Remembered st s i ∨ (st.ipAddressPool i).last < st.timeNow)) ∧
  ((∃ i, Remembered st s i) → ∃ i, Remembered st s i ∧ ∀ k, k < i → ¬ NeverUsed st k)

theorem assignIpAddress_given (found : poolEntry st s = some i) :
    GivenTo st (assignIpAddress st s) s i := by
  rw [poolEntry] at found
  simp only [assignIpAddress, found]
  constructor
  · rw [State.setPool_session, State.setSession_same]
  · rw [State.setPool_session, State.setSession_same]
  · rw [State.setPool_same]
  · rw [State.setPool_same]
  · intro k other
    rw [State.setPool_other other]
    rfl

theorem poolEntry_given {i j : Nat} (found : poolEntry st s = some i)
    (given : GivenTo st (assignIpAddress st s) s j) : i = j := by
  have index := (assignIpAddress_given found).index.symm.trans given.index
  exact Int.ofNat.inj index

theorem Chooses.found (chooses : Chooses st s) (unassigned : Unassigned st i) :
    ∃ j, poolEntry st s = some j ∧ RightEntry st s j := by
  have success := chooses.succeeds.mpr ⟨i, unassigned⟩
  obtain ⟨found, same⟩ := Option.isSome_iff_exists.mp success
  obtain ⟨j, right, given⟩ := chooses.chosen success
  exact ⟨j, poolEntry_given same given ▸ same, right⟩

theorem chooses_of_found (found : poolEntry st s = some i) (right : RightEntry st s i) :
    Chooses st s where
  succeeds := ⟨fun _ => ⟨i, right.1⟩, fun _ => by rw [assigns, found]; rfl⟩
  chosen _ := ⟨i, right, assignIpAddress_given found⟩

theorem chooses_of_assigned (all : ∀ i, ¬ Unassigned st i) (found : poolEntry st s = none) :
    Chooses st s where
  succeeds := by
    rw [assigns, found]
    exact ⟨nofun, fun ⟨i, unassigned⟩ => absurd unassigned (all i)⟩
  chosen success := by
    rw [assigns, found] at success
    exact nomatch success

theorem Chooses.findable (chooses : Chooses st s) : Findable st s := by
  have verdict := poolEntry_verdict st s
  constructor
  · rintro ⟨i, unassigned⟩
    obtain ⟨j, found, right⟩ := chooses.found unassigned
    rw [found] at verdict
    refine ⟨j, right.1, ?_⟩
    cases verdict with
    | remembered own _ => exact .inl own
    | neverUsed fresh _ => exact .inr (fresh.2.1 ▸ fresh.2.2)
    | oldest _ _ past _ => exact .inr past
  · rintro ⟨i, own⟩
    obtain ⟨j, found, right⟩ := chooses.found own.1
    have remembered := right.2.1 ⟨i, own⟩
    rw [found] at verdict
    cases verdict with
    | remembered _ used => exact ⟨j, remembered, used⟩
    | neverUsed _ forgotten => exact absurd remembered (forgotten j le_rfl)
    | oldest _ forgotten _ _ => exact absurd remembered (forgotten j)

theorem Findable.chooses (findable : Findable st s) : Chooses st s := by
  have verdict := poolEntry_verdict st s
  generalize found : poolEntry st s = result at verdict
  cases verdict with
  | none forgotten recent =>
      refine chooses_of_assigned (fun i unassigned => ?_) found
      obtain ⟨j, free, own | past⟩ := findable.1 ⟨i, unassigned⟩
      · exact forgotten j own
      · exact absurd past (Nat.not_lt_of_le (recent j free))
  | remembered own _ =>
      exact chooses_of_found found ⟨own.1, fun _ => own, fun none => absurd ⟨_, own⟩ none⟩
  | neverUsed fresh forgotten =>
      refine chooses_of_found found ⟨fresh.1, fun some => ?_, fun _ k _ => ?_⟩
      · obtain ⟨j, own, used⟩ := findable.2 some
        exact absurd own (forgotten j (Nat.le_of_not_lt fun earlier => used _ earlier fresh))
      · rw [fresh.2.1]
        exact Nat.zero_le _
  | oldest unassigned forgotten _ least =>
      exact chooses_of_found found
        ⟨unassigned, fun ⟨k, own⟩ => absurd own (forgotten k), fun _ => least⟩

/-- **A session gets the right address exactly if it is findable.** -/
theorem chooses_iff (st : State) (s : Nat) : Chooses st s ↔ Findable st s :=
  ⟨Chooses.findable, Findable.chooses⟩

/-- A pool with one address, in a server that runs. -/
def onePool : State :=
  .start .zero (fun i => if i = 1 then { IpPool.zero with address := 0x0a000001 } else .zero) 2
    1 1000

/-- The address that the first session just released is not found for the second one. -/
def reconnected : State := freeIpAddress (assignIpAddress onePool 1) 1

theorem reconnected_exhausted : ¬ Chooses reconnected 2 := by
  intro chooses
  have free : Unassigned reconnected 1 := by
    refine ⟨le_rfl, ?_, ?_, ?_⟩ <;> decide
  have success : assigns reconnected 2 = false := by decide
  exact Bool.noConfusion (success.symm.trans (chooses.succeeds.mpr ⟨1, free⟩))

end L2tpns.Server
