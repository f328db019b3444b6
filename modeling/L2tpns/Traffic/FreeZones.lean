import L2tpns.Cluster.FreeTraffic
import Mathlib.Data.List.Induction

/-! # Zones of free traffic

A zone has a table of networks, with which the destination of a packet is compared. The networks
are in the order of the host, the destination is in that of the network, the two characters of a
zone's name are signed, the table is full at 50 entries, and removing clears entries at the end of
the table. Where none of it matters, the traffic to the networks of a zone is free, and no other
traffic (`L2tpns.Traffic.FreeZones.free_iff`).
-/

namespace L2tpns.Traffic.FreeZones

open Foundation Cluster.FreeTraffic Function

def maxFreeNetworks : Nat := 50

/-- `freetraffic_zones`, arrays that may be missing, and `freetraffic_zone_sizes` -/
structure Tables where
  networks : Zone → Option (Nat → FreeNetwork)
  size : Zone → Nat

/-- The comparison of an address with a network. -/
def Contains (network : FreeNetwork) (addr : UInt32) : Prop :=
  addr &&& network.mask = network.host &&& network.mask

instance (network : FreeNetwork) (addr : UInt32) : Decidable (Contains network addr) :=
  inferInstanceAs (Decidable (_ = _))

/-- The place in the tables of a zone of this name. A character is signed, and from 128 on it is
an index in front of the tables. -/
def cell? (name : Zone) : Option Zone :=
  if name.x.toNat < 128 ∧ name.y.toNat < 128 then some name else none

namespace Tables

/-- An entry of an array; there is none behind its end. -/
def entry? (tables : Tables) (cell : Zone) (i : Nat) : Option FreeNetwork :=
  if i < maxFreeNetworks then (tables.networks cell).map (· i) else none

/-- The loop of `free_traffic` over these entries. -/
def search (tables : Tables) (cell : Zone) (dstIp : UInt32) : List Nat → Option Bool
  | [] => some false
  | i :: rest =>
      (tables.entry? cell i).bind fun network =>
        if Contains network dstIp then some true
        else tables.search cell dstIp rest

/-- `free_traffic` -/
def freeTraffic (tables : Tables) (zone : Zone) (buf : List UInt8) (len : Int) : Option Bool :=
  if len < 20 then some false
  else if buf.getD 0 0 >>> 4 ≠ 4 then some false
  else
    (cell? zone).bind fun cell =>
      tables.search cell (readAddress buf 16) (List.range (tables.size cell))

/-- `add_free_network`; `allocated` tells whether there was memory for a new array. -/
def addFreeNetwork (tables : Tables) (zone : Zone) (host mask : UInt32) (allocated : Bool) :
    Option Tables :=
  (cell? zone).bind fun cell =>
    let networks :=
      if tables.size cell = 0 then (if allocated then some fun _ => ⟨0, 0⟩ else none)
      else tables.networks cell
    if tables.size cell < maxFreeNetworks then
      networks.map fun array =>
        { networks := Function.update tables.networks cell
            (some (Function.update array (tables.size cell) ⟨host &&& mask, mask⟩))
          size := Function.update tables.size cell (tables.size cell + 1) }
    else none

/-- The loop of `remove_free_network` over these entries of an array. -/
def removeFrom (host : UInt32) : (Nat → FreeNetwork) → Nat → List Nat →
    Option ((Nat → FreeNetwork) × Nat)
  | array, size, [] => some (array, size)
  | array, size, i :: rest =>
      if i < maxFreeNetworks then
        if Contains (array i) host then
          if size < maxFreeNetworks then
            removeFrom host (Function.update array size ⟨0, 0⟩) (size - 1) rest
          else none
        else removeFrom host array size rest
      else none

/-- `remove_free_network`; the mask is not used. -/
def removeFreeNetwork (tables : Tables) (zone : Zone) (host _mask : UInt32) : Option Tables :=
  (cell? zone).bind fun cell =>
    match tables.networks cell with
    | none => if tables.size cell = 0 then some tables else none
    | some array =>
        (removeFrom host array (tables.size cell) (List.range (tables.size cell))).map
          fun (array, size) =>
            { networks := Function.update tables.networks cell (some array)
              size := Function.update tables.size cell size }

end Tables

/-- The tables are empty at first. -/
def noZones : Tables := ⟨fun _ => none, fun _ => 0⟩

def network (host mask : UInt32) : FreeNetwork := ⟨host &&& mask, mask⟩

/-- An address is in one of the networks. -/
def Covers (networks : List FreeNetwork) (addr : UInt32) : Prop :=
  ∃ n ∈ networks, Contains n addr

instance (networks : List FreeNetwork) (addr : UInt32) : Decidable (Covers networks addr) :=
  inferInstanceAs (Decidable (∃ _ ∈ networks, _))

@[simp]
theorem covers_nil (addr : UInt32) : ¬ Covers [] addr := by
  simp [Covers]

@[simp]
theorem covers_cons (n : FreeNetwork) (networks : List FreeNetwork) (addr : UInt32) :
    Covers (n :: networks) addr ↔ Contains n addr ∨ Covers networks addr := by
  simp [Covers]

/-- An address by its bytes. -/
def join (a b c d : UInt8) : UInt32 :=
  d.toUInt32 ||| c.toUInt32 <<< 8 ||| b.toUInt32 <<< 16 ||| a.toUInt32 <<< 24

def destination (buf : List UInt8) : UInt32 :=
  join (buf.getD 16 0) (buf.getD 17 0) (buf.getD 18 0) (buf.getD 19 0)

/-- An IPv4 packet with its addresses. -/
def IsIPv4 (buf : List UInt8) (len : Int) : Prop := 20 ≤ len ∧ buf.getD 0 0 >>> 4 = 4

/-- The networks have with each address the one with the bytes the other way round. -/
def Symmetric (networks : List FreeNetwork) : Prop :=
  ∀ a b c d, Covers networks (join a b c d) ↔ Covers networks (join d c b a)

variable {tables tables' : Tables} {zone other : Zone} {host mask : UInt32}
  {networks front : List FreeNetwork}

theorem or_shift {low k : Nat} (small : low < 2 ^ k) (n : Nat) :
    low ||| n * 2 ^ k = n * 2 ^ k + low := by
  rw [Nat.or_comm, Nat.mul_comm, ← Nat.two_pow_add_eq_or_of_lt small]

theorem join_toNat (a b c d : UInt8) :
    (join a b c d).toNat = a.toNat * 2 ^ 24 + b.toNat * 2 ^ 16 + c.toNat * 2 ^ 8 + d.toNat := by
  have ha := a.toNat_lt
  have hb := b.toNat_lt
  have hc := c.toNat_lt
  have hd := d.toNat_lt
  have shift (byte : UInt8) (k : UInt32) (small : k.toNat ≤ 24) :
      (byte.toUInt32 <<< k).toNat = byte.toNat * 2 ^ k.toNat := by
    have bound := byte.toNat_lt
    have within : k.toNat < 32 := by omega
    rw [UInt32.toNat_shiftLeft, UInt8.toNat_toUInt32, Nat.shiftLeft_eq, Nat.mod_eq_of_lt within]
    refine Nat.mod_eq_of_lt ?_
    calc byte.toNat * 2 ^ k.toNat < 2 ^ 8 * 2 ^ k.toNat :=
          Nat.mul_lt_mul_of_pos_right bound (Nat.two_pow_pos _)
      _ ≤ 2 ^ 8 * 2 ^ 24 := Nat.mul_le_mul_left _ (Nat.pow_le_pow_right (by decide) small)
  rw [join, UInt32.toNat_or, UInt32.toNat_or, UInt32.toNat_or, shift c 8 (by decide),
    shift b 16 (by decide), shift a 24 (by decide), UInt8.toNat_toUInt32]
  change d.toNat ||| c.toNat * 2 ^ 8 ||| b.toNat * 2 ^ 16 ||| a.toNat * 2 ^ 24 = _
  rw [or_shift hd, or_shift (by omega : c.toNat * 2 ^ 8 + d.toNat < 2 ^ 16),
    or_shift (by omega : b.toNat * 2 ^ 16 + (c.toNat * 2 ^ 8 + d.toNat) < 2 ^ 24)]
  omega

/-- An address has one row of bytes. -/
theorem join_injective {a b c d a' b' c' d' : UInt8} (same : join a b c d = join a' b' c' d') :
    a = a' ∧ b = b' ∧ c = c' ∧ d = d' := by
  have values := congrArg UInt32.toNat same
  rw [join_toNat, join_toNat] at values
  have := a.toNat_lt
  have := b.toNat_lt
  have := c.toNat_lt
  have := d.toNat_lt
  have := a'.toNat_lt
  have := b'.toNat_lt
  have := c'.toNat_lt
  have := d'.toNat_lt
  refine ⟨UInt8.toNat.inj ?_, UInt8.toNat.inj ?_, UInt8.toNat.inj ?_, UInt8.toNat.inj ?_⟩ <;> omega

theorem Symmetric.read (symmetric : Symmetric networks) (buf : List UInt8) :
    Covers networks (readAddress buf 16) ↔ Covers networks (destination buf) :=
  (symmetric _ _ _ _).symm

/-- The table of a zone has these networks. -/
structure Holds (tables : Tables) (cell : Zone) (networks : List FreeNetwork) : Prop where
  size : tables.size cell = networks.length
  room : networks.length ≤ maxFreeNetworks
  array : networks ≠ [] → ∃ array, tables.networks cell = some array ∧
    ∀ i (within : i < networks.length), array i = networks[i]

theorem Holds.entry (holds : Holds tables zone networks) {i : Nat} (within : i < networks.length) :
    tables.entry? zone i = some networks[i] := by
  obtain ⟨array, same, entries⟩ := holds.array (List.ne_nil_of_length_pos (by omega))
  rw [Tables.entry?, if_pos (within.trans_le holds.room), same, Option.map_some, entries i within]

/-- The loop finds out whether one of these entries covers the address. -/
theorem Holds.search_entries (holds : Holds tables zone networks) (dstIp : UInt32)
    {indices : List Nat} (within : ∀ i ∈ indices, i < networks.length) :
    tables.search zone dstIp indices =
      some (decide (∃ i ∈ indices, Covers networks[i]?.toList dstIp)) := by
  induction indices with
  | nil => simp [Tables.search]
  | cons i indices ih =>
      obtain ⟨here, behind⟩ := List.forall_mem_cons.mp within
      have found : networks[i]?.toList = [networks[i]] := by simp [here]
      rw [Tables.search, holds.entry here, Option.bind_some, ih behind]
      split_ifs with covers
      · simp [found, covers]
      · simp [found, covers]

/-- **The search is exact.** -/
theorem Holds.search (holds : Holds tables zone networks) (dstIp : UInt32) :
    tables.search zone dstIp (List.range (tables.size zone)) =
      some (decide (Covers networks dstIp)) := by
  have all : (∃ i ∈ List.range networks.length, Covers networks[i]?.toList dstIp) ↔
      Covers networks dstIp := by
    constructor
    · rintro ⟨i, -, n, found, covers⟩
      exact ⟨n, List.mem_of_getElem? (Option.mem_toList.mp found), covers⟩
    · rintro ⟨n, mem, covers⟩
      obtain ⟨i, within, same⟩ := List.mem_iff_getElem.mp mem
      exact ⟨i, List.mem_range.mpr within, n, by simp [within, same], covers⟩
  rw [holds.size, holds.search_entries dstIp fun i => List.mem_range.mp]
  exact congrArg some (decide_eq_decide.mpr all)

theorem Holds.freeTraffic (holds : Holds tables zone networks) (symmetric : Symmetric networks)
    (named : cell? zone = some zone) (buf : List UInt8) (len : Int) :
    ∃ free, tables.freeTraffic zone buf len = some free ∧
      (free = true ↔ IsIPv4 buf len ∧ Covers networks (destination buf)) := by
  rw [Tables.freeTraffic, IsIPv4]
  by_cases short : len < 20
  · rw [if_pos short]
    exact ⟨false, rfl, iff_of_false nofun fun right => absurd right.1.1 (not_le.mpr short)⟩
  rw [if_neg short]
  by_cases version : buf.getD 0 0 >>> 4 = 4
  · rw [if_neg (not_not.mpr version), named, Option.bind_some, holds.search]
    refine ⟨_, rfl, ?_⟩
    rw [decide_eq_true_iff, symmetric.read]
    exact ⟨fun covers => ⟨⟨not_lt.mp short, version⟩, covers⟩, And.right⟩
  · rw [if_pos version]
    exact ⟨false, rfl, iff_of_false nofun fun right => absurd right.1.2 version⟩

/-- A change of one zone's table. -/
structure Changes (tables : Tables) (zone : Zone) (tables' : Tables) : Prop where
  networks : ∀ other ≠ zone, tables'.networks other = tables.networks other
  size : ∀ other ≠ zone, tables'.size other = tables.size other

theorem Changes.holds (changes : Changes tables zone tables') (differs : other ≠ zone)
    (holds : Holds tables other networks) : Holds tables' other networks := by
  refine ⟨(changes.size other differs).trans holds.size, holds.room, ?_⟩
  rw [changes.networks other differs]
  exact holds.array

theorem changes_update (array : Option (Nat → FreeNetwork)) (size : Nat) :
    Changes tables zone ⟨update tables.networks zone array,
      update tables.size zone size⟩ :=
  ⟨fun _ differs => update_of_ne differs _ _,
    fun _ differs => update_of_ne differs _ _⟩

theorem cell?_some {cell : Zone} (named : cell? zone = some cell) : cell = zone := by
  rw [cell?] at named
  split_ifs at named
  exact (Option.some.inj named).symm

theorem addFreeNetwork_changes {allocated : Bool}
    (adds : tables.addFreeNetwork zone host mask allocated = some tables') :
    Changes tables zone tables' := by
  obtain ⟨cell, named, added⟩ := Option.bind_eq_some_iff.mp adds
  obtain rfl := cell?_some named
  dsimp only at added
  by_cases room : tables.size cell < maxFreeNetworks
  · rw [if_pos room] at added
    obtain ⟨array, -, rfl⟩ := Option.map_eq_some_iff.mp added
    exact changes_update _ _
  · rw [if_neg room] at added
    cases added

theorem removeFreeNetwork_changes
    (removes : tables.removeFreeNetwork zone host mask = some tables') :
    Changes tables zone tables' := by
  obtain ⟨cell, named, removed⟩ := Option.bind_eq_some_iff.mp removes
  obtain rfl := cell?_some named
  split at removed
  · split_ifs at removed
    cases removed
    exact ⟨fun _ _ => rfl, fun _ _ => rfl⟩
  · obtain ⟨result, -, rfl⟩ := Option.map_eq_some_iff.mp removed
    exact changes_update _ _

/-- **A network is added** where there is room for it. -/
theorem Holds.add (holds : Holds tables zone networks) (named : cell? zone = some zone)
    (room : networks.length < maxFreeNetworks) {allocated : Bool}
    (memory : allocated = true ∨ networks ≠ []) (host mask : UInt32) :
    ∃ tables', tables.addFreeNetwork zone host mask allocated = some tables' ∧
      Holds tables' zone (networks ++ [network host mask]) := by
  obtain ⟨array, present, entries⟩ : ∃ array,
      (if tables.size zone = 0 then (if allocated then some fun _ => ⟨0, 0⟩ else none)
        else tables.networks zone) = some array ∧
        ∀ i (within : i < networks.length), array i = networks[i] := by
    by_cases empty : networks = []
    · have none : tables.size zone = 0 := holds.size.trans (by rw [empty]; rfl)
      have allocates := memory.resolve_right (not_not.mpr empty)
      exact ⟨fun _ => ⟨0, 0⟩, by rw [if_pos none, if_pos allocates],
        fun i within => absurd within (by rw [empty]; exact Nat.not_lt_zero i)⟩
    · have some : tables.size zone ≠ 0 := by
        rw [holds.size]
        exact fun none => empty (List.length_eq_zero_iff.mp none)
      rw [if_neg some]
      exact holds.array empty
  rw [Tables.addFreeNetwork, named, Option.bind_some]
  dsimp only
  rw [holds.size, if_pos room, ← holds.size, present]
  refine ⟨_, rfl, ?_, ?_, fun _ => ⟨_, update_self .., fun i within => ?_⟩⟩
  · simp [holds.size]
  · rw [List.length_append]
    exact room
  · rw [List.getElem_append]
    split_ifs with old
    · rw [holds.size, update_of_ne old.ne, entries i old]
    · have last : i = networks.length := by simp at within; omega
      simp [last, holds.size, network]

theorem removeFrom_pass {array : Nat → FreeNetwork} {size : Nat} {indices rest : List Nat}
    (within : ∀ i ∈ indices, i < maxFreeNetworks)
    (apart : ∀ i ∈ indices, ¬ Contains (array i) host) :
    Tables.removeFrom host array size (indices ++ rest) =
      Tables.removeFrom host array size rest := by
  induction indices with
  | nil => rfl
  | cons i indices ih =>
      obtain ⟨here, behind⟩ := List.forall_mem_cons.mp within
      obtain ⟨differs, others⟩ := List.forall_mem_cons.mp apart
      rw [List.cons_append, Tables.removeFrom, if_pos here, if_neg differs, ih behind others]

/-- Entries at the end that contain the host are removed: one is dropped for each, and the
entries that are cleared contain every host. -/
theorem removeFrom_drop {array : Nat → FreeNetwork} {size : Nat} {indices : List Nat}
    (within : ∀ i ∈ indices, i < maxFreeNetworks)
    (all : ∀ i ∈ indices, Contains (array i) host) (enough : indices.length ≤ size)
    (room : indices ≠ [] → size < maxFreeNetworks) :
    ∃ array', Tables.removeFrom host array size indices = some (array', size - indices.length) ∧
      ∀ i ≤ size - indices.length, array' i = array i := by
  induction indices generalizing array size with
  | nil => exact ⟨array, rfl, fun _ _ => rfl⟩
  | cons i indices ih =>
      obtain ⟨here, behind⟩ := List.forall_mem_cons.mp within
      obtain ⟨contains, others⟩ := List.forall_mem_cons.mp all
      have free := room (List.cons_ne_nil i indices)
      rw [List.length_cons] at enough
      have still : ∀ j ∈ indices, Contains (update array size ⟨0, 0⟩ j) host := by
        intro j mem
        by_cases cleared : j = size
        · rw [cleared, update_self, Contains]
          simp
        · rw [update_of_ne cleared]
          exact others j mem
      have fewer : indices.length ≤ size - 1 := Nat.le_sub_of_add_le enough
      have less : size - 1 < maxFreeNetworks := (Nat.sub_le _ _).trans_lt free
      obtain ⟨array', removes, kept⟩ := ih behind still fewer fun _ => less
      rw [Tables.removeFrom, if_pos here, if_pos contains, if_pos free, removes, List.length_cons]
      have sizes : size - 1 - indices.length = size - (indices.length + 1) := by omega
      rw [sizes] at kept ⊢
      refine ⟨array', rfl, fun j bound => ?_⟩
      rw [kept j bound, update_of_ne (by omega)]

theorem contains_network (host mask : UInt32) : Contains (network host mask) host := by
  rw [Contains, network, UInt32.and_assoc, UInt32.and_self]

/-- **A network is removed** where its entries are the last ones and no other contains the
host. -/
theorem Holds.remove {k : Nat}
    (holds : Holds tables zone (front ++ List.replicate k (network host mask)))
    (named : cell? zone = some zone) (apart : ∀ n ∈ front, ¬ Contains n host)
    (room : k ≠ 0 → front.length + k < maxFreeNetworks) :
    ∃ tables', tables.removeFreeNetwork zone host mask = some tables' ∧
      Holds tables' zone front := by
  have size : tables.size zone = front.length + k := by simpa using holds.size
  have bound : front.length + k ≤ maxFreeNetworks := by simpa using holds.room
  rw [Tables.removeFreeNetwork, named, Option.bind_some]
  cases present : tables.networks zone with
  | none =>
      have empty : front ++ List.replicate k (network host mask) = [] := by
        by_contra some
        obtain ⟨array, same, -⟩ := holds.array some
        exact nomatch present.symm.trans same
      obtain ⟨rfl, nothing⟩ := List.append_eq_nil_iff.mp empty
      have none : k = 0 := by simpa using nothing
      subst none
      exact ⟨tables, by simp [size], by simpa using holds⟩
  | some array =>
      have entries : ∀ i (within : i < (front ++ List.replicate k (network host mask)).length),
          array i = (front ++ List.replicate k (network host mask))[i] := by
        intro i within
        obtain ⟨array', same, entries⟩ := holds.array (List.ne_nil_of_length_pos (by omega))
        obtain rfl := Option.some.inj (present.symm.trans same)
        exact entries i within
      have passes : ∀ i ∈ List.range' 0 front.length, ¬ Contains (array i) host := by
        intro i mem
        have within : i < front.length := by simpa using mem
        rw [entries i (by simp; omega), List.getElem_append_left within]
        exact apart _ (List.getElem_mem within)
      have drops : ∀ i ∈ List.range' front.length k, Contains (array i) host := by
        intro i mem
        have within : front.length ≤ i ∧ i < front.length + k := by simpa using mem
        rw [entries i (by simp; omega), List.getElem_append_right within.1, List.getElem_replicate]
        exact contains_network host mask
      obtain ⟨array', removes, kept⟩ := @removeFrom_drop host array (front.length + k)
        (List.range' front.length k) (fun i mem => by simp at mem; omega) drops (by simp)
        fun some => room (by simpa using some)
      have indices : List.range (front.length + k) =
          List.range' 0 front.length ++ List.range' front.length k := by
        have joined := @List.range'_append_1 0 front.length k
        rw [Nat.zero_add] at joined
        rw [List.range_eq_range', joined]
      dsimp only
      rw [size, indices, removeFrom_pass (fun i mem => by simp at mem; omega) passes, removes,
        Option.map_some]
      rw [List.length_range', Nat.add_sub_cancel] at kept ⊢
      refine ⟨_, rfl, by simp, by omega, fun _ => ⟨_, update_self .., fun i within => ?_⟩⟩
      dsimp only
      rw [kept i within.le, entries i (by simp; omega), List.getElem_append_left within]

/-- A call for a zone, with addresses in the order of the host. -/
inductive Call where
  | add (zone : Zone) (host mask : UInt32) (allocated : Bool)
  | remove (zone : Zone) (host mask : UInt32)

def Call.target : Call → Zone
  | .add zone .. => zone
  | .remove zone .. => zone

def Call.Leads (tables : Tables) : Call → Tables → Prop
  | .add zone host mask allocated, tables' =>
      tables.addFreeNetwork zone host mask allocated = some tables'
  | .remove zone host mask, tables' => tables.removeFreeNetwork zone host mask = some tables'

/-- The networks of a zone after the call. -/
def Call.after (networks : List FreeNetwork) : Call → List FreeNetwork
  | .add _ host mask _ => networks ++ [network host mask]
  | .remove _ host mask => networks.filter (· ≠ network host mask)

/-- The tables, and the networks that were added to each zone and not removed since. -/
structure History where
  tables : Tables
  added : Zone → List FreeNetwork

/-- Calls on tables that were empty. -/
def zoneSystem : TransitionSystem History Call where
  initial st := st = ⟨noZones, fun _ => []⟩
  step st call next := call.Leads st.tables next.tables ∧
    next.added = Function.update st.added call.target (call.after (st.added call.target))

/-- The zone's name has two characters below 128. For an addition there is room and memory. For a
removal the entries of the network are the last ones, no other network contains the host, and the
table is not full unless nothing is removed. Then the networks are symmetric. -/
def Call.Keeps (st : History) : Call → Prop
  | .add zone host mask allocated => cell? zone = some zone ∧
      (st.added zone).length < maxFreeNetworks ∧ (allocated = true ∨ st.added zone ≠ []) ∧
      Symmetric (st.added zone ++ [network host mask])
  | .remove zone host mask => cell? zone = some zone ∧
      ∃ front k, st.added zone = front ++ List.replicate k (network host mask) ∧
        (∀ n ∈ front, ¬ Contains n host) ∧ (k ≠ 0 → front.length + k < maxFreeNetworks) ∧
        Symmetric front

/-- The tables have the networks, and these are symmetric. -/
def Sound (st : History) : Prop :=
  ∀ zone, Holds st.tables zone (st.added zone) ∧ Symmetric (st.added zone)

theorem symmetric_nil : Symmetric [] := by
  simp [Symmetric]

theorem sound_initial : Sound ⟨noZones, fun _ => []⟩ :=
  fun _ => ⟨⟨rfl, Nat.zero_le _, fun some => absurd rfl some⟩, symmetric_nil⟩

theorem Call.leads_changes {call : Call} (leads : call.Leads tables tables') :
    Changes tables call.target tables' := by
  cases call with
  | add => exact addFreeNetwork_changes leads
  | remove => exact removeFreeNetwork_changes leads

/-- **A call that meets the condition** is defined and does to its zone's table what it is to
do. -/
theorem Sound.call {st : History} {call : Call} (sound : Sound st) (keeps : call.Keeps st) :
    Symmetric (call.after (st.added call.target)) ∧ ∃ tables', call.Leads st.tables tables' ∧
      Holds tables' call.target (call.after (st.added call.target)) := by
  cases call with
  | add zone host mask allocated =>
      obtain ⟨named, room, memory, symmetric⟩ := keeps
      exact ⟨symmetric, (sound zone).1.add named room memory host mask⟩
  | remove zone host mask =>
      obtain ⟨named, front, k, same, apart, room, symmetric⟩ := keeps
      have rest : (st.added zone).filter (· ≠ network host mask) = front := by
        have others : ∀ n ∈ front, n ≠ network host mask := fun n mem is =>
          apart n mem (is ▸ contains_network host mask)
        rw [same, List.filter_append, List.filter_eq_self.mpr (by simpa using others)]
        simp
      rw [Call.after, Call.target, rest]
      exact ⟨symmetric, (same ▸ (sound zone).1 : Holds _ _ (_ ++ _)).remove named apart room⟩

theorem sound_step {st next : History} {call : Call} (sound : Sound st) (keeps : call.Keeps st)
    (step : zoneSystem.step st call next) : Sound next := by
  obtain ⟨leads, added⟩ := step
  obtain ⟨symmetric, tables', same, holds⟩ := sound.call keeps
  have only : next.tables = tables' := by
    cases call <;> exact Option.some.inj (leads.symm.trans same)
  intro zone
  rw [added]
  by_cases own : zone = call.target
  · rw [own, update_self, only]
    exact ⟨holds, symmetric⟩
  · rw [update_of_ne own]
    exact ⟨(Call.leads_changes leads).holds own (sound zone).1, (sound zone).2⟩

theorem sound_of_reachable {st : History} (reached : zoneSystem.ReachableUnder Call.Keeps st) :
    Sound st := by
  induction reached with
  | initial start => exact start ▸ sound_initial
  | step call _ keeps step sound => exact sound_step sound keeps step

/-- **Free traffic.** In every run whose calls meet the condition, the traffic to the networks of
a zone, and no other, is free; every such call stays in its zone's array, and no call changes
another zone. -/
theorem free_iff (st : History) (reached : zoneSystem.ReachableUnder Call.Keeps st) :
    (∀ zone buf len, cell? zone = some zone →
      ∃ free, st.tables.freeTraffic zone buf len = some free ∧
        (free = true ↔ IsIPv4 buf len ∧ Covers (st.added zone) (destination buf))) ∧
      (∀ call : Call, call.Keeps st → ∃ tables', call.Leads st.tables tables') ∧
      ∀ call next, zoneSystem.step st call next → Changes st.tables call.target next.tables := by
  have sound := sound_of_reachable reached
  refine ⟨fun zone buf len named => ?_, fun call keeps => ?_, fun call next step => ?_⟩
  · exact (sound zone).1.freeTraffic (sound zone).2 named buf len
  · obtain ⟨-, tables', leads, -⟩ := sound.call keeps
    exact ⟨tables', leads⟩
  · exact Call.leads_changes step.1

def zoneAb : Zone := ⟨0x61, 0x62⟩

/-- The tables when one network was added to the zone. -/
def oneNetwork (host mask : UInt32) : Tables where
  networks := Function.update noZones.networks zoneAb
    (some (Function.update (fun _ => ⟨0, 0⟩) 0 ⟨host &&& mask, mask⟩))
  size := Function.update noZones.size zoneAb 1

theorem oneNetwork_step (host mask : UInt32) :
    zoneSystem.step ⟨noZones, fun _ => []⟩ (.add zoneAb host mask true)
      ⟨oneNetwork host mask, update (fun _ => []) zoneAb [network host mask]⟩ :=
  ⟨rfl, rfl⟩

/-- The address 10.1.1.10. -/
def palindrome : UInt32 := join 10 1 1 10

theorem palindrome_symmetric : Symmetric [network palindrome 0xffffffff] := by
  have only (addr : UInt32) : Covers [network palindrome 0xffffffff] addr ↔ addr = palindrome := by
    have all : ∀ addr : UInt32, addr &&& 0xffffffff = addr := fun addr => UInt32.and_neg_one
    simp [Contains, network, all]
  intro a b c d
  rw [only, only]
  constructor
  · intro same
    obtain ⟨rfl, rfl, rfl, rfl⟩ := join_injective same
    rfl
  · intro same
    obtain ⟨rfl, rfl, rfl, rfl⟩ := join_injective same
    rfl

theorem palindrome_free :
    let st : History := ⟨oneNetwork palindrome 0xffffffff,
      update (fun _ => []) zoneAb [network palindrome 0xffffffff]⟩
    (∀ zone buf len, cell? zone = some zone →
      ∃ free, st.tables.freeTraffic zone buf len = some free ∧
        (free = true ↔ IsIPv4 buf len ∧ Covers (st.added zone) (destination buf))) ∧
      (∀ call : Call, call.Keeps st → ∃ tables', call.Leads st.tables tables') ∧
      ∀ call next, zoneSystem.step st call next → Changes st.tables call.target next.tables :=
  free_iff _ (.step (.add zoneAb palindrome 0xffffffff true) (.initial rfl)
    ⟨by decide, by decide, .inl rfl, palindrome_symmetric⟩ (oneNetwork_step _ _))

/-- A packet to 10.1.2.3, which is in the network 10.0.0.0/8 of the zone. -/
theorem free_refused : ¬ ∀ st, zoneSystem.Reachable st → ∀ buf len,
    st.tables.freeTraffic zoneAb buf len =
      some (decide (20 ≤ len ∧ buf.getD 0 0 >>> 4 = 4 ∧
        Covers (st.added zoneAb) (destination buf))) := by
  intro exact
  have found := exact _ (.step _ (.initial rfl) trivial (oneNetwork_step 0x0a000000 0xff000000))
    (0x45 :: List.replicate 15 0 ++ [10, 1, 2, 3]) 20
  exact absurd found (by decide)

end L2tpns.Traffic.FreeZones
