import L2tpns.Cluster.Heartbeat
import L2tpns.Cluster.Rle
import Mathlib.Algebra.Order.Ring.Int

/-! # Packing a heartbeat

A heartbeat is its header, the records queued as changed and a stretch of each
table from where the last walk stopped. The sizes of the records are fixed when
the program is built; here they are a parameter. Records decode to what the
tables held (`L2tpns.Cluster.record_hbAddType`). A heartbeat of any content fits
its buffer and the largest datagram exactly when a full queue of incompressible
sessions does (`L2tpns.Cluster.heartbeat_fits_iff`).
-/

namespace L2tpns.Cluster

/-- The tables whose records go out in heartbeats. -/
inductive Kind where
  | session
  | bundle
  | tunnel
deriving DecidableEq, Repr

/-- The type of an element with a compressed record. -/
def Kind.compressed : Kind → Nat
  | .session => 12
  | .bundle => 18
  | .tunnel => 13

/-- The type of an element with a plain record. -/
def Kind.plain : Kind → Nat
  | .session => 5
  | .bundle => 17
  | .tunnel => 4

/-- Sizes of the structures, in bytes. -/
structure Layout where
  heart : Nat
  sess : Nat
  bund : Nat
  tunn : Nat
  tunn_ge : 8 ≤ tunn
  bund_ge : 8 ≤ bund
  tunn_le : tunn ≤ sess
  bund_le : bund ≤ sess
  sess_le : sess ≤ 2000

def Layout.size (layout : Layout) : Kind → Nat
  | .session => layout.sess
  | .bundle => layout.bund
  | .tunnel => layout.tunn

/-- `MAX_CHANGES`. -/
def Layout.maxChanges (layout : Layout) : Nat := maxHeartSize / (layout.sess + 4) - 2

/-- Size of the buffer that a heartbeat is packed in. -/
def Layout.buffSize (layout : Layout) : Nat := maxHeartSize + layout.heart + 4

theorem Layout.size_le (layout : Layout) (kind : Kind) : layout.size kind ≤ layout.sess := by
  cases kind with
  | session => exact Nat.le_refl _
  | bundle => exact layout.bund_le
  | tunnel => exact layout.tunn_le

/-- The memory that a heartbeat is packed from: the filled out header and the
three tables. -/
structure Tables (layout : Layout) where
  header : List UInt8
  record : Kind → Nat → List UInt8
  header_length : header.length = layout.heart
  record_length : ∀ kind id, (record kind id).length = layout.size kind

/-- A part of a cluster packet: a type, a word that depends on it, and data. -/
structure Element where
  type : Nat
  more : Nat
  data : List UInt8
deriving DecidableEq, Repr

/-- A 32 bit word as it lies in memory. -/
def word (value : Nat) : List UInt8 :=
  [UInt8.ofNat value, UInt8.ofNat (value / 2 ^ 8), UInt8.ofNat (value / 2 ^ 16),
    UInt8.ofNat (value / 2 ^ 24)]

/-- The bytes that `add_type` writes. -/
def Element.bytes (element : Element) : List UInt8 :=
  word element.type ++ word element.more ++ element.data

/-- How far the write pointer has come. -/
def packedSize (elements : List Element) : Nat := (elements.flatMap Element.bytes).length

/-- Write an element behind those in the buffer. -/
def addType (elements : List Element) (type more : Nat) (data : List UInt8) : List Element :=
  elements ++ [⟨type, more, data⟩]

theorem packedSize_addType (elements : List Element) (type more : Nat) (data : List UInt8) :
    packedSize (addType elements type more data) = packedSize elements + (8 + data.length) := by
  unfold packedSize addType
  rw [List.flatMap_append, List.length_append, List.flatMap_singleton, Element.bytes,
    List.length_append]
  rfl

section Packing

variable {layout : Layout} (tables : Tables layout)

/-- Write a record, compressed if that is complete and smaller. -/
def hbAddType (elements : List Element) (kind : Kind) (id : Nat) : List Element :=
  let record := tables.record kind id
  let compressed := rleCompress record (2 * layout.size kind)
  if compressed.2 = [] ∧ compressed.1.length < layout.size kind then
    addType elements kind.compressed id compressed.1
  else
    addType elements kind.plain id record

def Element.record (layout : Layout) (kind : Kind) (element : Element) : Option (List UInt8) :=
  if element.type = kind.compressed then
    some (rleDecompress element.data (layout.size kind + 2)).1
  else if element.type = kind.plain then some element.data
  else none

variable (elements : List Element) (kind : Kind) (id : Nat) (changes : List Change)
  (highest walks : Kind → Nat)

/-- An element is written behind the others, and stands for the record. -/
theorem record_hbAddType :
    ∃ element : Element, hbAddType tables elements kind id = elements ++ [element] ∧
      element.more = id ∧ element.record layout kind = some (tables.record kind id) := by
  unfold hbAddType
  dsimp only
  split
  · rename_i smaller
    refine ⟨_, rfl, rfl, ?_⟩
    obtain ⟨consumed, whole, decompresses⟩ :=
      rleDecompress_rleCompress (tables.record kind id) [] (2 * layout.size kind)
    rw [smaller.1, List.append_nil] at whole
    have length := tables.record_length kind id
    have back := decompresses (layout.size kind + 2) (by omega)
    rw [List.append_nil] at back
    rw [Element.record, if_pos rfl, back, whole]
  · refine ⟨_, rfl, rfl, ?_⟩
    have plain : kind.plain ≠ kind.compressed := by cases kind <;> decide
    rw [Element.record, if_neg plain, if_pos rfl]

theorem packedSize_hbAddType :
    packedSize elements ≤ packedSize (hbAddType tables elements kind id) ∧
      packedSize (hbAddType tables elements kind id) ≤
        packedSize elements + (8 + layout.size kind) := by
  unfold hbAddType
  dsimp only
  split
  · rename_i smaller
    rw [packedSize_addType]
    omega
  · rw [packedSize_addType, tables.record_length]
    omega

structure Change where
  kind : Kind
  id : Nat
deriving DecidableEq, Repr

/-- The header, and the queued changes behind it. -/
def packChanges (changes : List Change) : List Element :=
  changes.foldl (fun elements change => hbAddType tables elements change.kind change.id)
    (addType [] 1 hbVersion tables.header)

/-- Fill up with records of one table while `slack` more bytes fit; `left` says
how many records the walk may still take. -/
def walk (kind : Kind) (slack highest : Nat) : Nat → List Element → Nat → List Element × Nat
  | 0, elements, position =>
      -- the index moves off entry 0 before the count is looked at
      if packedSize elements + slack < maxHeartSize then
        (elements, if position = 0 then 1 else position)
      else (elements, position)
  | left + 1, elements, position =>
      if packedSize elements + slack < maxHeartSize then
        let id := if position = 0 then 1 else position
        walk kind slack highest left (hbAddType tables elements kind id)
          ((1 + id) % (highest + 1))
      else (elements, position)

/-- Bytes that have to fit for a walk to go on. -/
def Layout.slack (layout : Layout) : Kind → Nat
  | .session => 8 + 2 * layout.sess
  | .tunnel => 8 + layout.tunn
  | .bundle => 8 + layout.bund

/-- The walk over one table, of at most as many records as it has. -/
def walkTable (kind : Kind) (highest : Kind → Nat) (packed : List Element × (Kind → Nat)) :
    List Element × (Kind → Nat) :=
  let walked := walk tables kind (layout.slack kind) (highest kind) (highest kind) packed.1
    (packed.2 kind)
  (walked.1, Function.update packed.2 kind walked.2)

/-- Everything written into the buffer, and where the walks go on. -/
def packHeartbeat (changes : List Change) (highest walks : Kind → Nat) :
    List Element × (Kind → Nat) :=
  walkTable tables .bundle highest <| walkTable tables .tunnel highest <|
    walkTable tables .session highest (packChanges tables changes, walks)

/-- What becomes of a heartbeat. -/
inductive Fate where
  | overran
  | oversize (elements : List Element)
  | sent (elements : List Element)

/-- Pack a heartbeat and send it; the buffer is checked behind the changes and
behind the walks, the datagram when it is sent. -/
def packAndSend (changes : List Change) (highest walks : Kind → Nat) : Fate × (Kind → Nat) :=
  if layout.buffSize < packedSize (packChanges tables changes) then (.overran, walks)
  else
    let packed := packHeartbeat tables changes highest walks
    if layout.buffSize < packedSize packed.1 then (.overran, packed.2)
    else if maxHeartSize < packedSize packed.1 then (.oversize packed.1, packed.2)
    else (.sent packed.1, packed.2)

theorem prefix_hbAddType : elements <+: hbAddType tables elements kind id := by
  obtain ⟨element, written, _⟩ := record_hbAddType tables elements kind id
  exact ⟨[element], written.symm⟩

theorem prefix_walk (slack highest left : Nat) (elements : List Element) (position : Nat) :
    elements <+: (walk tables kind slack highest left elements position).1 := by
  induction left generalizing elements position with
  | zero =>
      unfold walk
      split <;> exact List.prefix_refl _
  | succ left ih =>
      unfold walk
      split
      · exact (prefix_hbAddType tables elements kind _).trans (ih _ _)
      · exact List.prefix_refl _

theorem prefix_packHeartbeat :
    packChanges tables changes <+: (packHeartbeat tables changes highest walks).1 := by
  unfold packHeartbeat walkTable
  exact (prefix_walk ..).trans ((prefix_walk ..).trans (prefix_walk ..))

/-- Some element of a heartbeat stands for a record as the tables hold it. -/
def Carries (elements : List Element) (kind : Kind) (id : Nat) : Prop :=
  ∃ element ∈ elements, element.more = id ∧
    element.record layout kind = some (tables.record kind id)

theorem carries_packChanges {change : Change} (queued : change ∈ changes) :
    Carries tables (packChanges tables changes) change.kind change.id := by
  unfold packChanges
  have kept : ∀ (rest : List Change) (elements : List Element), elements <+:
      rest.foldl (fun elements change => hbAddType tables elements change.kind change.id)
        elements := by
    intro rest
    induction rest with
    | nil => exact fun elements => List.prefix_refl _
    | cons other rest ih =>
        exact fun elements => (prefix_hbAddType tables elements other.kind other.id).trans (ih _)
  generalize addType [] 1 hbVersion tables.header = elements
  induction changes generalizing elements with
  | nil => exact absurd queued List.not_mem_nil
  | cons first rest ih =>
      rw [List.foldl_cons]
      rcases List.mem_cons.mp queued with rfl | behind
      · obtain ⟨element, written, id, record⟩ :=
          record_hbAddType tables elements change.kind change.id
        have here : element ∈ hbAddType tables elements change.kind change.id := by
          rw [written]
          exact List.mem_append_right _ List.mem_cons_self
        exact ⟨element, (kept rest _).subset here, id, record⟩
      · exact ih behind _

theorem carries_packHeartbeat {change : Change} (queued : change ∈ changes) :
    Carries tables (packHeartbeat tables changes highest walks).1 change.kind change.id := by
  obtain ⟨element, present, stands⟩ := carries_packChanges tables changes queued
  exact ⟨element, (prefix_packHeartbeat tables changes highest walks).subset present, stands⟩

theorem packedSize_mono {elements longer : List Element} (grows : elements <+: longer) :
    packedSize elements ≤ packedSize longer := by
  obtain ⟨rest, rfl⟩ := grows
  unfold packedSize
  rw [List.flatMap_append, List.length_append]
  exact Nat.le_add_right _ _

theorem packedSize_packChanges :
    packedSize (packChanges tables changes) ≤
      8 + layout.heart + changes.length * (8 + layout.sess) := by
  unfold packChanges
  have header : packedSize (addType [] 1 hbVersion tables.header) = 8 + layout.heart := by
    rw [packedSize_addType, tables.header_length]
    exact Nat.zero_add _
  rw [← header]
  generalize addType [] 1 hbVersion tables.header = elements
  induction changes generalizing elements with
  | nil => exact Nat.le_add_right _ _
  | cons change rest ih =>
      rw [List.foldl_cons, List.length_cons, Nat.succ_mul]
      have here := (packedSize_hbAddType tables elements change.kind change.id).2
      have small := layout.size_le change.kind
      have behind := ih (hbAddType tables elements change.kind change.id)
      omega

/-- A walk stays below the bound that it started below. -/
theorem packedSize_walk {slack : Nat} (room : 8 + layout.size kind ≤ slack)
    (highest left : Nat) (elements : List Element) (position : Nat)
    (fits : packedSize elements ≤ maxHeartSize) :
    packedSize (walk tables kind slack highest left elements position).1 ≤ maxHeartSize := by
  induction left generalizing elements position with
  | zero =>
      unfold walk
      split <;> exact fits
  | succ left ih =>
      unfold walk
      split
      · rename_i more
        apply ih
        have here := (packedSize_hbAddType tables elements kind
          (if position = 0 then 1 else position)).2
        omega
      · exact fits

theorem Layout.size_le_slack (layout : Layout) (kind : Kind) :
    8 + layout.size kind ≤ layout.slack kind := by
  cases kind with
  | session =>
      change 8 + layout.sess ≤ 8 + 2 * layout.sess
      omega
  | bundle | tunnel => exact Nat.le_refl _

theorem packedSize_packHeartbeat (fits : packedSize (packChanges tables changes) ≤ maxHeartSize) :
    packedSize (packHeartbeat tables changes highest walks).1 ≤ maxHeartSize := by
  unfold packHeartbeat walkTable
  apply packedSize_walk tables .bundle (layout.size_le_slack .bundle)
  apply packedSize_walk tables .tunnel (layout.size_le_slack .tunnel)
  apply packedSize_walk tables .session (layout.size_le_slack .session)
  exact fits

end Packing

/-- Compression keeps the non-zero bytes. -/
theorem nonzero_compressRuns (src : List UInt8) (dsize : Nat) :
    src.countP (· ≠ 0) ≤
      (compressRuns src dsize).1.length + (compressRuns src dsize).2.countP (· ≠ 0) := by
  obtain ⟨runs, written, whole⟩ := compressRuns_eq_code src dsize
  have kept : (runs.flatMap Run.content).countP (· ≠ 0) ≤ (runs.flatMap Run.code).length := by
    generalize runs = runs
    induction runs with
    | nil => exact Nat.le_refl _
    | cons run rest ih =>
        rw [List.flatMap_cons, List.flatMap_cons, List.countP_append, List.length_append]
        apply Nat.add_le_add _ ih
        cases run with
        | nonzero bytes starts short => exact Nat.le_succ_of_le List.countP_le_length
        | zeros count starts short =>
            rw [Run.content, List.countP_replicate]
            exact Nat.zero_le _
  have split := congrArg (List.countP (· ≠ 0)) whole
  rw [List.countP_append] at split
  rw [written]
  omega

/-- Tables of records without a zero byte. -/
def denseTables (layout : Layout) : Tables layout where
  header := List.replicate layout.heart 1
  record kind _ := List.replicate (layout.size kind) 1
  header_length := List.length_replicate
  record_length _ _ := List.length_replicate

theorem hbAddType_dense (layout : Layout) (elements : List Element) (kind : Kind) (id : Nat) :
    packedSize (hbAddType (denseTables layout) elements kind id) =
      packedSize elements + (8 + layout.size kind) := by
  unfold hbAddType
  dsimp only
  rw [if_neg, packedSize_addType, (denseTables layout).record_length]
  rintro ⟨complete, smaller⟩
  have kept := nonzero_compressRuns ((denseTables layout).record kind id) (2 * layout.size kind)
  rw [rleCompress] at complete smaller
  rw [complete] at kept
  have dense : ((denseTables layout).record kind id).countP (· ≠ 0) = layout.size kind :=
    List.countP_replicate
  rw [dense] at kept
  rw [List.length_append] at smaller
  exact absurd smaller (Nat.not_lt.mpr (Nat.le_add_right_of_le kept))

theorem packChanges_dense (layout : Layout) (count : Nat) :
    packedSize (packChanges (denseTables layout) (List.replicate count ⟨.session, 1⟩)) =
      8 + layout.heart + count * (8 + layout.sess) := by
  unfold packChanges
  have header : packedSize (addType [] 1 hbVersion (denseTables layout).header) =
      8 + layout.heart := by
    rw [packedSize_addType, (denseTables layout).header_length]
    exact Nat.zero_add _
  rw [← header]
  generalize addType [] 1 hbVersion (denseTables layout).header = elements
  induction count generalizing elements with
  | zero => rw [Nat.zero_mul]; rfl
  | succ count ih =>
      rw [List.replicate_succ, List.foldl_cons, ih, hbAddType_dense, Nat.succ_mul]
      change packedSize elements + (8 + layout.sess) + _ = _
      omega

/-- A heartbeat is packed inside its buffer and sent within the largest datagram. -/
def HeartbeatFits {layout : Layout} (tables : Tables layout) (changes : List Change)
    (highest walks : Kind → Nat) : Prop :=
  packedSize (packChanges tables changes) ≤ layout.buffSize ∧
    packedSize (packHeartbeat tables changes highest walks).1 ≤ layout.buffSize ∧
    ∃ elements, (packAndSend tables changes highest walks).1 = .sent elements ∧
      packedSize elements ≤ maxHeartSize

theorem heartbeatFits_of_changes {layout : Layout} (tables : Tables layout)
    (changes : List Change) (highest walks : Kind → Nat)
    (fits : packedSize (packChanges tables changes) ≤ maxHeartSize) :
    HeartbeatFits tables changes highest walks := by
  have whole := packedSize_packHeartbeat tables changes highest walks fits
  have larger : maxHeartSize ≤ layout.buffSize := Nat.le_trans (Nat.le_add_right _ _)
    (Nat.le_add_right _ _)
  refine ⟨fits.trans larger, whole.trans larger, _, ?_, whole⟩
  unfold packAndSend
  dsimp only
  rw [if_neg (Nat.not_lt.mpr (fits.trans larger)), if_neg (Nat.not_lt.mpr (whole.trans larger)),
    if_neg (Nat.not_lt.mpr whole)]

theorem packAndSend_built {layout : Layout} {tables : Tables layout} {changes : List Change}
    {highest walks : Kind → Nat} {elements : List Element}
    (built : (packAndSend tables changes highest walks).1 = .oversize elements ∨
      (packAndSend tables changes highest walks).1 = .sent elements) :
    elements = (packHeartbeat tables changes highest walks).1 := by
  unfold packAndSend at built
  dsimp only at built
  split_ifs at built
  · exact built.elim nofun nofun
  · exact built.elim nofun nofun
  · rcases built with oversize | sent
    · cases oversize
      rfl
    · exact nomatch sent
  · rcases built with oversize | sent
    · exact nomatch oversize
    · cases sent
      rfl

/-- **Every heartbeat fits when a full queue of incompressible sessions does**,
and only then: whatever the tables, the walks and the queued changes are, all
writes stay inside the buffer and no check ends the process. -/
theorem heartbeat_fits_iff (layout : Layout) :
    (∀ (tables : Tables layout) (changes : List Change) (highest walks : Kind → Nat),
        changes.length ≤ layout.maxChanges + 1 → HeartbeatFits tables changes highest walks) ↔
      8 + layout.heart + (layout.maxChanges + 1) * (8 + layout.sess) ≤ maxHeartSize := by
  constructor
  · intro always
    obtain ⟨_, _, elements, sent, small⟩ := always (denseTables layout)
      (List.replicate (layout.maxChanges + 1) ⟨.session, 1⟩) (fun _ => 0) (fun _ => 0)
      (Nat.le_of_eq List.length_replicate)
    rw [packAndSend_built (.inr sent)] at small
    rw [← packChanges_dense]
    exact (packedSize_mono (prefix_packHeartbeat ..)).trans small
  · intro room tables changes highest walks queue
    apply heartbeatFits_of_changes
    have packed := packedSize_packChanges tables changes
    have most := Nat.mul_le_mul_right (8 + layout.sess) queue
    omega

/-- Small structures. -/
def smallLayout : Layout where
  heart := 128
  sess := 8
  bund := 8
  tunn := 8
  tunn_ge := Nat.le_refl _
  bund_ge := Nat.le_refl _
  tunn_le := Nat.le_refl _
  bund_le := Nat.le_refl _
  sess_le := by decide

/-- With sessions of eight bytes a full queue does not fit. -/
theorem heartbeat_overruns :
    ¬ ∀ (layout : Layout) (tables : Tables layout) (changes : List Change)
      (highest walks : Kind → Nat), changes.length ≤ layout.maxChanges + 1 →
        HeartbeatFits tables changes highest walks := by
  intro always
  obtain ⟨inside, _⟩ := always smallLayout (denseTables smallLayout)
    (List.replicate 681 ⟨.session, 1⟩) (fun _ => 0) (fun _ => 0)
    (Nat.le_of_eq List.length_replicate)
  rw [packChanges_dense] at inside
  exact absurd inside (by decide)

end L2tpns.Cluster
