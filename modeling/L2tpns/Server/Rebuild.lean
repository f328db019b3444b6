import L2tpns.Server.AddressPool

/-! # The pool after a takeover

A new master rebuilds the pool from the session table. The index of an entry is
read back from the map with the sign changed, but a cell of the map is unsigned, so
the index is never positive: only the unused entry 0 is ever assigned. The rebuilt
pool is right exactly if no open session uses one of its addresses
(`L2tpns.Server.rebuildAddressPool_restores`).
-/

namespace L2tpns.Server

variable {st : State}

theorem rebuildEntry_pool (st : State) (i j : Nat) :
    ((rebuildEntry st i).ipAddressPool j).address = (st.ipAddressPool j).address ∧
      ((rebuildEntry st i).ipAddressPool j).assigned =
        if j = i then false else (st.ipAddressPool j).assigned := by
  have pool : (rebuildEntry st i).ipAddressPool = Function.update st.ipAddressPool i
      { st.ipAddressPool i with assigned := false, session := 0 } := by
    rw [rebuildEntry]
    split <;> rfl
  rw [pool]
  by_cases same : j = i
  · rw [same, Function.update_self, if_pos rfl]
    exact ⟨rfl, rfl⟩
  · rw [Function.update_of_ne same, if_neg same]
    exact ⟨rfl, rfl⟩

theorem rebuildSession_pool (i : Nat) {j : Nat} (entry : 1 ≤ j) :
    (rebuildSession st i).ipAddressPool j = st.ipAddressPool j := by
  simp only [rebuildSession]
  split_ifs with closed static outside
  · rfl
  · rfl
  · rfl
  · refine Function.update_of_ne ?_ ..
    omega

theorem rebuildEntries_pool (entries : List Nat) (st : State) (j : Nat) :
    ((entries.foldl rebuildEntry st).ipAddressPool j).address = (st.ipAddressPool j).address ∧
      ((entries.foldl rebuildEntry st).ipAddressPool j).assigned =
        if j ∈ entries then false else (st.ipAddressPool j).assigned := by
  induction entries generalizing st with
  | nil => exact ⟨rfl, rfl⟩
  | cons i entries ih =>
      obtain ⟨address, assigned⟩ := ih (rebuildEntry st i)
      obtain ⟨address', assigned'⟩ := rebuildEntry_pool st i j
      refine ⟨address.trans address', assigned.trans ?_⟩
      rw [assigned']
      by_cases later : j ∈ entries
      · rw [if_pos later, if_pos (List.mem_cons_of_mem i later)]
      · rw [if_neg later]
        by_cases first : j = i
        · rw [if_pos first, if_pos (first ▸ List.mem_cons_self)]
        · rw [if_neg first, if_neg fun member => (List.mem_cons.mp member).elim first later]

theorem rebuildSessions_pool (sessions : List Nat) (st : State) {j : Nat} (entry : 1 ≤ j) :
    (sessions.foldl rebuildSession st).ipAddressPool j = st.ipAddressPool j := by
  induction sessions generalizing st with
  | nil => rfl
  | cons i sessions ih => rw [List.foldl_cons, ih, rebuildSession_pool i entry]

/-- An entry of the pool with an address. -/
def State.HasEntry (st : State) (i : Nat) : Prop :=
  1 ≤ i ∧ i < maxIpPool ∧ (st.ipAddressPool i).address ≠ 0

/-- The session is open and has the address of the entry. -/
def State.Uses (st : State) (s i : Nat) : Prop :=
  s < maxSession ∧ (st.session s).opened ≠ 0 ∧ (st.session s).ip = (st.ipAddressPool i).address

theorem rebuildAddressPool_assigned {i : Nat} (first : 1 ≤ i) (last : i < maxIpPool) :
    ((rebuildAddressPool st).ipAddressPool i).assigned = false := by
  rw [rebuildAddressPool, rebuildSessions_pool _ _ first,
    (rebuildEntries_pool _ st i).2, if_pos (List.mem_range'_1.mpr (by omega))]

/-- The pool and the map agree with the session table that was taken over. -/
structure Restored (before after : State) : Prop where
  used : ∀ s i, before.HasEntry i → before.Uses s i →
    (after.ipAddressPool i).assigned = true ∧ (after.ipAddressPool i).session = s ∧
      (after.session s).ipPoolIndex = i ∧ sessionbyip after (before.session s).ip = s
  unused : ∀ i, before.HasEntry i → (∀ s, ¬ before.Uses s i) →
    (after.ipAddressPool i).assigned = false

/-- A rebuild restores the pool exactly if no open session has an address of it. -/
theorem rebuildAddressPool_restores (st : State) :
    Restored st (rebuildAddressPool st) ↔ ∀ s i, st.HasEntry i → ¬ st.Uses s i := by
  constructor
  · intro restored s i entry uses
    have assigned := (restored.used s i entry uses).1
    rw [rebuildAddressPool_assigned entry.1 entry.2.1] at assigned
    cases assigned
  · intro none
    exact ⟨fun s i entry uses => absurd uses (none s i entry),
      fun i entry _ => rebuildAddressPool_assigned entry.1 entry.2.1⟩

/-- Session 1 is open and has the only address of the pool. -/
def takenOver : State :=
  { State.start .zero (fun i => if i = 1 then ⟨0x0A000001, true, 1, 0, []⟩ else .zero) 2 0 0 with
    session := fun s =>
      if s = 1 then { Session.zero with opened := 1, ip := 0x0A000001, ipPoolIndex := 1 }
      else .zero }

/-- The entry of an address in use is lost, although the addresses are distinct. -/
theorem takenOver_lost :
    (∀ i j, takenOver.HasEntry i → takenOver.HasEntry j →
        (takenOver.ipAddressPool i).address = (takenOver.ipAddressPool j).address → i = j) ∧
      ¬ Restored takenOver (rebuildAddressPool takenOver) := by
  have only : ∀ i, takenOver.HasEntry i → i = 1 := by
    intro i ⟨_, _, address⟩
    by_contra other
    exact address (by simp only [takenOver, State.start, other, ↓reduceIte, IpPool.zero])
  refine ⟨fun i j first second _ => (only i first).trans (only j second).symm, ?_⟩
  intro restored
  have entry : takenOver.HasEntry 1 := ⟨Nat.le_refl 1, by decide, by decide⟩
  have assigned := (restored.used 1 1 entry ⟨by decide, by decide, rfl⟩).1
  rw [rebuildAddressPool_assigned entry.1 entry.2.1] at assigned
  cases assigned

end L2tpns.Server
