import L2tpns.Cluster.Received
import L2tpns.Traffic.FreeZones

/-! # Loading a heartbeat

A slave of the same build gets from a heartbeat what its master has in its tables: first the
records queued as changed, in order, and then those of the walks, which come to every session
(`L2tpns.Cluster.heartbeats_loaded`).
-/

namespace L2tpns.Cluster

open FreeTraffic (readAddress)
open Received (Body elementBody)

/-- What `cluster_recv_session`, `cluster_recv_tunnel` or `cluster_recv_bundle` is called with. -/
structure Loaded where
  kind : Kind
  more : Nat
  record : List UInt8

/-- The sizes of a build, with those of older sessions. -/
def Layout.wire (layout : Layout) (old : Nat × Nat × Nat) : WireSizes where
  heart := layout.heart
  sess := layout.sess
  bund := layout.bund
  tunn := layout.tunn
  oldsession := old.1
  oldsessionV7 := old.2.1
  oldsessionV8 := old.2.2

def WireSizes.size (sizes : WireSizes) : Kind → Nat
  | .session => sizes.sess
  | .bundle => sizes.bund
  | .tunnel => sizes.tunn

variable (sizes : WireSizes)

/-- The record of an element, in the packet or decompressed. -/
def Received.Body.content (body : Body) (kind : Kind) (p : List UInt8) : List UInt8 :=
  if body.inPlace then p.take body.consumed else (rleDecompress p (sizes.size kind + 2)).1

/-- What the element loop of `cluster_process_heartbeat` loads from the bytes `p` of a heartbeat
of its own version, which do not end within the two words of an element. -/
def loaded (p : List UInt8) : List Loaded :=
  if 0 < p.length then
    match elementBody sizes hbVersion (readAddress p 0).toNat (p.length - 8 : Int) (p.drop 8) with
    | none => []
    | some body =>
        (body.load.toList.map fun kind => ⟨kind, (readAddress (p.drop 4) 0).toNat,
          body.content sizes kind (p.drop 8)⟩) ++ loaded (p.drop (8 + body.consumed))
  else []
termination_by p.length
decreasing_by simp only [List.length_drop]; omega

variable {sizes} {type : Nat} {p : List UInt8}

theorem readAddress_word (value : Nat) :
    (readAddress (word value ++ p) 0).toNat = value % 2 ^ 32 := by
  refine (Traffic.FreeZones.join_toNat _ _ _ _).trans ?_
  change (UInt8.ofNat (value / 2 ^ 24)).toNat * 2 ^ 24 + (UInt8.ofNat (value / 2 ^ 16)).toNat *
    2 ^ 16 + (UInt8.ofNat (value / 2 ^ 8)).toNat * 2 ^ 8 + (UInt8.ofNat value).toNat = _
  simp only [UInt8.toNat_ofNat']
  omega

/-- One element is loaded, and the loop goes on behind it. -/
theorem loaded_element {body : Body} {kind : Kind} (more : Nat)
    (found : elementBody sizes hbVersion (type % 2 ^ 32) p.length p = some body)
    (loads : body.load = some kind) :
    loaded sizes (word type ++ (word more ++ p)) =
      ⟨kind, more % 2 ^ 32, body.content sizes kind p⟩ :: loaded sizes (p.drop body.consumed) := by
  have left : ((word type ++ (word more ++ p)).length - 8 : Int) = p.length := by
    change ((p.length + 8 : Nat) : Int) - 8 = p.length
    omega
  have four : (word type ++ (word more ++ p)).drop 4 = word more ++ p := rfl
  have eight : (word type ++ (word more ++ p)).drop 8 = p := rfl
  have positive : 0 < (word type ++ (word more ++ p)).length := Nat.succ_pos _
  rw [loaded, if_pos positive, readAddress_word, left, eight, found]
  dsimp only
  rw [loads, four, readAddress_word, ← List.drop_drop, eight]
  rfl

/-- A compressed record is loaded. -/
theorem elementBody_compressed (kind : Kind) (s : Int) {record behind : List UInt8}
    (read : rleDecompress p (sizes.size kind + 2) = (record, behind))
    (whole : record.length = sizes.size kind) :
    elementBody sizes hbVersion (kind.compressed % 2 ^ 32) s p =
      some ⟨p.length - behind.length, some kind, false⟩ := by
  cases kind <;> simp only [WireSizes.size] at read whole <;>
    simp [elementBody, Kind.compressed, Received.compressedBody, Received.csessionLoads,
      Received.ctunnelLoads, read, whole, hbVersion]

theorem elementBody_plain (kind : Kind) {s : Int} (room : sizes.size kind ≤ s) :
    elementBody sizes hbVersion (kind.plain % 2 ^ 32) s p =
      some ⟨sizes.size kind, some kind, true⟩ := by
  have fits : ¬ (0 ≤ s ∧ s < sizes.size kind) := by omega
  cases kind <;> simp only [WireSizes.size] at fits <;>
    simp [elementBody, Kind.plain, Received.plainBody, WireSizes.size, fits, hbVersion]

variable {layout : Layout} (tables : Tables layout)

def Change.load (change : Change) : Loaded :=
  ⟨change.kind, change.id % 2 ^ 32, tables.record change.kind change.id⟩

variable (same : ∀ kind, sizes.size kind = layout.size kind)

include same in
/-- A record that is written behind others is loaded. -/
theorem hbAddType_loaded (elements : List Element) (change : Change) :
    ∃ element : Element, hbAddType tables elements change.kind change.id = elements ++ [element] ∧
      ∀ p, loaded sizes (element.bytes ++ p) = change.load tables :: loaded sizes p := by
  have length := tables.record_length change.kind change.id
  simp only [Element.bytes, List.append_assoc]
  unfold hbAddType
  dsimp only
  split
  · rename_i smaller
    refine ⟨_, rfl, fun p => ?_⟩
    obtain ⟨consumed, whole, decompresses⟩ := rleDecompress_rleCompress
      (tables.record change.kind change.id) p (2 * layout.size change.kind)
    rw [smaller.1, List.append_nil] at whole
    subst whole
    have read := decompresses (sizes.size change.kind + 2) (by rw [same]; omega)
    refine (loaded_element _ (elementBody_compressed _ _ read (by rw [length, same])) rfl).trans ?_
    rw [Body.content, if_neg Bool.false_ne_true, read]
    simp [Change.load]
  · refine ⟨_, rfl, fun p => ?_⟩
    refine (loaded_element _ (elementBody_plain _ ?_) rfl).trans ?_
    · rw [same, ← length, List.length_append]
      exact Int.ofNat_le.mpr (Nat.le_add_right _ _)
    · rw [Body.content, if_pos rfl, same, ← length, List.take_left, List.drop_left]
      rfl

/-- Behind the header, elements load the records of these changes. -/
def Loads (sizes : WireSizes) (elements : List Element) (changes : List Change) : Prop :=
  ∃ rest, elements = ⟨1, hbVersion, tables.header⟩ :: rest ∧ ∀ p,
    loaded sizes (rest.flatMap Element.bytes ++ p) = changes.map (·.load tables) ++ loaded sizes p

section

include same

variable {tables} {elements : List Element} {earlier : List Change}

theorem Loads.hbAddType (loads : Loads tables sizes elements earlier) (change : Change) :
    Loads tables sizes (hbAddType tables elements change.kind change.id) (earlier ++ [change]) := by
  obtain ⟨rest, rfl, read⟩ := loads
  obtain ⟨element, written, reads⟩ := hbAddType_loaded tables same (_ :: rest) change
  refine ⟨rest ++ [element], written, fun p => ?_⟩
  rw [List.flatMap_append, List.append_assoc, List.flatMap_singleton, read, reads,
    List.map_append, List.append_assoc]
  rfl

theorem Loads.changes (loads : Loads tables sizes elements earlier) (changes : List Change) :
    Loads tables sizes (changes.foldl (fun elements change =>
      Cluster.hbAddType tables elements change.kind change.id) elements)
      (earlier ++ changes) := by
  induction changes generalizing elements earlier with
  | nil => simpa using loads
  | cons change changes ih =>
      rw [List.append_cons]
      exact ih (loads.hbAddType same change)

/-- The ids of `count` records of a table, from a position of the walk on. -/
def turns (highest : Nat) : Nat → Nat → List Nat
  | 0, _ => []
  | count + 1, position =>
      let id := if position = 0 then 1 else position
      id :: turns highest count ((1 + id) % (highest + 1))

theorem Loads.walk (loads : Loads tables sizes elements earlier) (kind : Kind)
    (slack highest left position : Nat) :
    ∃ count, Loads tables sizes
        (Cluster.walk tables kind slack highest left elements position).1
        (earlier ++ (turns highest count position).map (Change.mk kind)) ∧
      (packedSize elements + slack < maxHeartSize → 0 < left → 0 < count) ∧
      ∀ more, turns highest (count + more) position = turns highest count position ++
        turns highest more (Cluster.walk tables kind slack highest left elements position).2 := by
  induction left generalizing elements earlier position with
  | zero =>
      refine ⟨0, ?_, fun _ => id, fun more => ?_⟩
      · rw [turns, List.map_nil, List.append_nil]
        unfold Cluster.walk
        split <;> exact loads
      · unfold Cluster.walk
        rw [Nat.zero_add]
        split
        · cases more with
          | zero => rfl
          | succ more => by_cases zero : position = 0 <;> simp [turns, zero]
        · rfl
  | succ left ih =>
      unfold Cluster.walk
      split
      · obtain ⟨count, goes, -, behind⟩ := ih (loads.hbAddType same
          ⟨kind, if position = 0 then 1 else position⟩) _
        refine ⟨count + 1, (List.append_cons ..).symm ▸ goes, fun _ _ => Nat.succ_pos _,
          fun more => ?_⟩
        rw [Nat.add_right_comm]
        exact congrArg _ (behind more)
      · rename_i full
        exact ⟨0, by simpa [turns] using loads, fun room => absurd room full,
          fun more => by simp [turns]⟩

end

/-- The elements behind the header. -/
def packedRecords (tables : Tables layout) (changes : List Change) (highest walks : Kind → Nat) :
    List UInt8 :=
  ((packHeartbeat tables changes highest walks).1.flatMap Element.bytes).drop (8 + layout.heart)

theorem packHeartbeat_loads (tables : Tables layout) (changes : List Change)
    (highest walks : Kind → Nat) (old : Nat × Nat × Nat) :
    ∃ count others, loaded (layout.wire old) (packedRecords tables changes highest walks) =
        (changes ++ ((turns (highest .session) count (walks .session)).map (Change.mk .session) ++
          others)).map (·.load tables) ∧
      (packedSize (packChanges tables changes) + layout.slack .session < maxHeartSize →
        0 < highest .session → 0 < count) ∧
      ∀ more, turns (highest .session) (count + more) (walks .session) =
        turns (highest .session) count (walks .session) ++ turns (highest .session) more
          ((packHeartbeat tables changes highest walks).2 .session) := by
  have same (kind : Kind) : (layout.wire old).size kind = layout.size kind := by
    cases kind <;> rfl
  have header : Loads tables (layout.wire old) (addType [] 1 hbVersion tables.header) [] :=
    ⟨[], rfl, fun _ => rfl⟩
  obtain ⟨sessions, first, some, behind⟩ := (header.changes same changes).walk same .session
    (layout.slack .session) (highest .session) (highest .session) (walks .session)
  obtain ⟨_, second, -⟩ := first.walk same .tunnel (layout.slack .tunnel) (highest .tunnel)
    (highest .tunnel) (walks .tunnel)
  obtain ⟨_, ⟨rest, written, read⟩, -⟩ := second.walk same .bundle (layout.slack .bundle)
    (highest .bundle) (highest .bundle) (walks .bundle)
  have packed : (packHeartbeat tables changes highest walks).1 = _ := written
  have whole := read []
  rw [loaded.eq_1 _ [], List.length_nil, if_neg (Nat.lt_irrefl 0)] at whole
  simp only [List.append_assoc, List.append_nil, List.nil_append] at whole
  refine ⟨sessions, _, Eq.trans ?_ whole, some, behind⟩
  rw [packedRecords, packed, List.flatMap_cons, List.drop_left']
  rw [Element.bytes, List.length_append, tables.header_length]
  rfl

theorem turns_mono {highest count id position : Nat} (more : Nat)
    (visited : id ∈ turns highest count position) : id ∈ turns highest (count + more) position := by
  induction count generalizing position with
  | zero => cases visited
  | succ count ih =>
      rw [Nat.add_right_comm]
      exact (List.mem_cons.mp visited).elim (fun here => List.mem_cons.mpr (.inl here))
        fun later => List.mem_cons_of_mem _ (ih later)

/-- A walk comes to every entry, at the latest after those in front of it. -/
theorem mem_turns {highest id count position : Nat} (real : 1 ≤ id ∧ id ≤ highest)
    (within : position ≤ highest)
    (far : (if max position 1 ≤ id then id - max position 1 else highest - max position 1 + id) <
      count) : id ∈ turns highest count position := by
  induction count generalizing position with
  | zero => cases far
  | succ count ih =>
      have start : (if position = 0 then 1 else position) = max position 1 := by
        split <;> omega
      rw [turns, start]
      by_cases here : id = max position 1
      · exact List.mem_cons.mpr (.inl here)
      · apply List.mem_cons_of_mem
        by_cases last : max position 1 = highest
        · rw [last, Nat.add_comm, Nat.mod_self]
          exact ih (Nat.zero_le _) (by split at far <;> split <;> omega)
        · rw [Nat.mod_eq_of_lt (by omega)]
          exact ih (by omega) (by split at far <;> split <;> omega)

/-- Where the walks go on after some heartbeats. -/
def walksAfter (tables : Nat → Tables layout) (changes : Nat → List Change)
    (highest walks : Kind → Nat) : Nat → Kind → Nat
  | 0 => walks
  | n + 1 =>
      (packHeartbeat (tables n) (changes n) highest (walksAfter tables changes highest walks n)).2

/-- **Records keep their contents, and none is left out.** A slave of the same build loads the
records queued as changed, in order, and others, all as the tables of its master hold them. From
heartbeats with room behind their changes it gets all sessions in use. -/
theorem heartbeats_loaded (tables : Nat → Tables layout) (changes : Nat → List Change)
    (highest walks : Kind → Nat) (old : Nat × Nat × Nat) :
    let read n := loaded (layout.wire old) (packedRecords (tables n) (changes n) highest
      (walksAfter tables changes highest walks n))
    (∀ n, ∃ walked, read n = (changes n ++ walked).map (·.load (tables n))) ∧
      ((∀ n, packedSize (packChanges (tables n) (changes n)) + layout.slack .session <
          maxHeartSize) → walks .session ≤ highest .session →
        ∀ id, 1 ≤ id ∧ id ≤ highest .session →
          ∃ n < highest .session, Change.load (tables n) ⟨.session, id⟩ ∈ read n) := by
  intro read
  have loads (n : Nat) := packHeartbeat_loads (tables n) (changes n) highest
    (walksAfter tables changes highest walks n) old
  refine ⟨fun n => ?_, fun room within id real => ?_⟩
  · obtain ⟨_, _, all, -⟩ := loads n
    exact ⟨_, all⟩
  by_contra missed
  push Not at missed
  -- the walk goes on by one record at least, and the session is none of them
  have walked : ∀ n ≤ highest .session, ∃ total, n ≤ total ∧
      id ∉ turns (highest .session) total (walks .session) ∧
      ∀ more, turns (highest .session) (total + more) (walks .session) =
        turns (highest .session) total (walks .session) ++ turns (highest .session) more
          (walksAfter tables changes highest walks n .session) := by
    intro n few
    induction n with
    | zero => exact ⟨0, Nat.le_refl 0, List.not_mem_nil, fun more => by rw [Nat.zero_add]; rfl⟩
    | succ n ih =>
        obtain ⟨total, enough, none, behind⟩ := ih (Nat.le_of_succ_le few)
        obtain ⟨count, others, all, some, goes⟩ := loads n
        have one := some (room n) (by omega)
        refine ⟨total + count, by omega, ?_, fun more => ?_⟩
        · rw [behind, List.mem_append, not_or]
          refine ⟨none, fun here => missed n few ?_⟩
          rw [show read n = _ from all]
          exact List.mem_map_of_mem (List.mem_append_right _
            (List.mem_append_left _ (List.mem_map_of_mem here)))
        · rw [Nat.add_assoc, behind, goes, behind, List.append_assoc]
          rfl
  obtain ⟨total, enough, none, -⟩ := walked _ (Nat.le_refl _)
  apply none
  rw [← Nat.add_sub_of_le enough]
  exact turns_mono _ (mem_turns real within (by split <;> omega))

/-- Three full sessions. -/
theorem heartbeats_loaded_dense : ∃ n < 3, Change.load (denseTables smallLayout) ⟨.session, 2⟩ ∈
    loaded (smallLayout.wire (0, 0, 0)) (packedRecords (denseTables smallLayout) [] (fun _ => 3)
      (walksAfter (fun _ => denseTables smallLayout) (fun _ => []) (fun _ => 3) (fun _ => 0) n)) :=
  (heartbeats_loaded (fun _ => denseTables smallLayout) (fun _ => []) (fun _ => 3) (fun _ => 0)
    (0, 0, 0)).2 (fun _ => by
      have size := packChanges_dense smallLayout 0
      rw [List.replicate_zero] at size
      rw [size]
      decide) (Nat.zero_le 3) 2 (by decide)

end L2tpns.Cluster
