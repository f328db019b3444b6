import Mathlib.Data.List.Basic

/-! # Run-length compression of heartbeat elements

A compressed element is a sequence of runs with a stop byte. A run of non-zero bytes is a
count and the bytes, a run of zeros is a count with the high bit set. Decompression of
what was compressed gives the consumed bytes back and stops behind the stop byte
(`L2tpns.Cluster.rleDecompress_rleCompress`); with room for twice the source, everything
from three bytes on is consumed (`L2tpns.Cluster.rle_roundTrip`).
-/

namespace L2tpns.Cluster

/-- The inner loop over non-zero bytes: the bytes copied, and those left. -/
def copyNonzero : List UInt8 → Nat → Nat → List UInt8 × List UInt8
  | [], _, _ => ([], [])
  | b :: src, count, dsize =>
      if b ≠ 0 ∧ count < 127 ∧ 1 < dsize then
        let copied := copyNonzero src (count + 1) (dsize - 1)
        (b :: copied.1, copied.2)
      else ([], b :: src)

/-- The inner loop over zeros: how many were counted, and the bytes left. -/
def countZeros : List UInt8 → Nat → Nat × List UInt8
  | [], count => (count, [])
  | b :: src, count => if b = 0 ∧ count < 127 then countZeros src (count + 1) else (count, b :: src)

variable {dsize : Nat} (src : List UInt8) (count : Nat) (rest : List UInt8)

theorem copyNonzero_append (dsize : Nat) :
    (copyNonzero src count dsize).1 ++ (copyNonzero src count dsize).2 = src := by
  induction src generalizing count dsize with
  | nil => rfl
  | cons b src ih =>
      rw [copyNonzero]
      split
      · exact congrArg (b :: ·) (ih (count + 1) (dsize - 1))
      · rfl

theorem countZeros_append :
    count ≤ (countZeros src count).1 ∧
      List.replicate ((countZeros src count).1 - count) 0 ++ (countZeros src count).2 = src := by
  induction src generalizing count with
  | nil => exact ⟨Nat.le_refl _, by rw [countZeros, Nat.sub_self]; rfl⟩
  | cons b src ih =>
      rw [countZeros]
      split
      · rename_i counted
        obtain ⟨grows, whole⟩ := ih (count + 1)
        have split : (countZeros src (count + 1)).1 - count =
            (countZeros src (count + 1)).1 - (count + 1) + 1 := by omega
        exact ⟨by omega, by rw [split, List.replicate_succ, List.cons_append, whole, counted.1]⟩
      · exact ⟨Nat.le_refl _, by rw [Nat.sub_self]; rfl⟩

theorem copyNonzero_length_lt {b : UInt8} {src : List UInt8} (nonzero : b ≠ 0)
    (room : 1 < dsize) : (copyNonzero (b :: src) 0 dsize).2.length < (b :: src).length := by
  have whole := congrArg List.length (copyNonzero_append src 1 (dsize - 1))
  rw [List.length_append] at whole
  rw [copyNonzero, if_pos ⟨nonzero, by decide, room⟩, List.length_cons]
  exact Nat.lt_succ_of_le (Nat.le.intro ((Nat.add_comm ..).trans whole))

theorem countZeros_length_lt {b : UInt8} {src : List UInt8} (zero : b = 0) :
    (countZeros (b :: src) 0).2.length < (b :: src).length := by
  have whole := congrArg List.length (countZeros_append src 1).2
  rw [List.length_append] at whole
  rw [countZeros, if_pos ⟨zero, by decide⟩, List.length_cons]
  exact Nat.lt_succ_of_le (Nat.le.intro ((Nat.add_comm ..).trans whole))

/-- The loop of `rle_compress`: what is written before the stop byte, and what is left of
the source. -/
def compressRuns (src : List UInt8) (dsize : Nat) : List UInt8 × List UInt8 :=
  match src with
  | [] => ([], [])
  | b :: src =>
      if full : dsize ≤ 2 then ([], b :: src)
      else if nonzero : b ≠ 0 then
        -- a byte is reserved for the count before the run is scanned
        let copied := copyNonzero (b :: src) 0 (dsize - 1)
        let rest := compressRuns copied.2 (dsize - 1 - copied.1.length)
        (UInt8.ofNat copied.1.length :: copied.1 ++ rest.1, rest.2)
      else
        let counted := countZeros (b :: src) 0
        let rest := compressRuns counted.2 (dsize - 1)
        (UInt8.ofNat (counted.1 ||| 0x80) :: rest.1, rest.2)
termination_by src.length
decreasing_by
  · exact copyNonzero_length_lt nonzero (by omega)
  · exact countZeros_length_lt (not_not.mp nonzero)

/-- `rle_compress`: what is written, and what is left of the source. -/
def rleCompress (src : List UInt8) (dsize : Nat) : List UInt8 × List UInt8 :=
  ((compressRuns src dsize).1 ++ [0], (compressRuns src dsize).2)

/-- Copy a run of non-zero bytes: the bytes copied, and what is left of the source. -/
def copyRun : Nat → List UInt8 → Nat → List UInt8 × List UInt8
  | count + 1, b :: src, dsize + 1 =>
      let copied := copyRun count src dsize
      (b :: copied.1, copied.2)
  | _, src, _ => ([], src)

theorem copyRun_length (src : List UInt8) (dsize : Nat) :
    (copyRun count src dsize).2.length ≤ src.length := by
  induction count generalizing src dsize with
  | zero => exact Nat.le_refl _
  | succ count ih =>
      cases src with
      | nil => exact Nat.le_refl _
      | cons b src =>
          cases dsize with
          | zero => exact Nat.le_refl _
          | succ dsize => exact Nat.le_succ_of_le (ih src dsize)

/-- `rle_decompress`: the bytes written, and what is left of the source. -/
def rleDecompress (src : List UInt8) (dsize : Nat) : List UInt8 × List UInt8 :=
  match src with
  | [] => ([], [])
  | b :: src =>
      if dsize = 0 then ([], b :: src)
      else if b = 0 then ([], src)
      else if b &&& 0x80 ≠ 0 then
        let zeros := min (b &&& 0x7f).toNat dsize
        let rest := rleDecompress src (dsize - zeros)
        (List.replicate zeros 0 ++ rest.1, rest.2)
      else
        let copied := copyRun b.toNat src dsize
        let rest := rleDecompress copied.2 (dsize - copied.1.length)
        (copied.1 ++ rest.1, rest.2)
termination_by src.length
decreasing_by
  · exact Nat.lt_succ_self _
  · exact Nat.lt_succ_of_le (copyRun_length ..)

/-- A run of a compressed element. -/
inductive Run where
  | nonzero (bytes : List UInt8) (starts : bytes ≠ []) (short : bytes.length ≤ 127)
  | zeros (count : Nat) (starts : 1 ≤ count) (short : count ≤ 127)

/-- The bytes that a run stands for. -/
def Run.content : Run → List UInt8
  | nonzero bytes _ _ => bytes
  | zeros count _ _ => List.replicate count 0

/-- The bytes that a run is written as. -/
def Run.code : Run → List UInt8
  | nonzero bytes _ _ => UInt8.ofNat bytes.length :: bytes
  | zeros count _ _ => [UInt8.ofNat (count ||| 0x80)]

theorem copyNonzero_short {count : Nat} (dsize : Nat) (short : count ≤ 127) :
    count + (copyNonzero src count dsize).1.length ≤ 127 := by
  induction src generalizing count dsize with
  | nil => exact short
  | cons b src ih =>
      rw [copyNonzero]
      split
      · rename_i copied
        have next := ih (dsize - 1) (show count + 1 ≤ 127 from copied.2.1)
        rw [List.length_cons]
        omega
      · exact short

theorem countZeros_short {count : Nat} (short : count ≤ 127) : (countZeros src count).1 ≤ 127 := by
  induction src generalizing count with
  | nil => exact short
  | cons b src ih =>
      rw [countZeros]
      split
      · rename_i counted
        exact ih (Nat.succ_le_of_lt counted.2)
      · exact short

/-- What is written is a sequence of runs, and they stand for what was consumed. -/
theorem compressRuns_eq_code (dsize : Nat) :
    ∃ runs : List Run, (compressRuns src dsize).1 = runs.flatMap Run.code ∧
      runs.flatMap Run.content ++ (compressRuns src dsize).2 = src := by
  induction src, dsize using compressRuns.induct with
  | case1 dsize =>
      refine ⟨[], ?_, ?_⟩
      · rw [compressRuns]; rfl
      · rw [compressRuns]; rfl
  | case2 dsize b src full =>
      refine ⟨[], ?_, ?_⟩
      · rw [compressRuns, dif_pos full]; rfl
      · rw [compressRuns, dif_pos full]; rfl
  | case3 dsize b src full nonzero copied ih =>
      obtain ⟨runs, written, whole⟩ := ih
      have starts : copied.1 ≠ [] := by
        have room : 1 < dsize - 1 := by omega
        change (copyNonzero (b :: src) 0 (dsize - 1)).1 ≠ []
        rw [copyNonzero, if_pos ⟨nonzero, by decide, room⟩]
        exact List.cons_ne_nil _ _
      have short : copied.1.length ≤ 127 := by
        have bounded := copyNonzero_short (b :: src) (dsize - 1) (Nat.zero_le 127)
        rw [Nat.zero_add] at bounded
        exact bounded
      refine ⟨.nonzero copied.1 starts short :: runs, ?_, ?_⟩
      · rw [compressRuns, dif_neg full, dif_pos nonzero, List.flatMap_cons, ← written]
        rfl
      · rw [compressRuns, dif_neg full, dif_pos nonzero, List.flatMap_cons, List.append_assoc]
        exact (congrArg (copied.1 ++ ·) whole).trans (copyNonzero_append ..)
  | case4 dsize b src full zero counted ih =>
      obtain ⟨runs, written, whole⟩ := ih
      have zero := not_not.mp zero
      have starts : 1 ≤ counted.1 := by
        change 1 ≤ (countZeros (b :: src) 0).1
        rw [countZeros, if_pos ⟨zero, by decide⟩]
        exact (countZeros_append src 1).1
      refine ⟨.zeros counted.1 starts (countZeros_short _ (Nat.zero_le 127)) :: runs, ?_, ?_⟩
      · rw [compressRuns, dif_neg full, dif_neg (not_not.mpr zero), List.flatMap_cons, ← written]
        rfl
      · rw [compressRuns, dif_neg full, dif_neg (not_not.mpr zero), List.flatMap_cons,
          List.append_assoc]
        exact (congrArg (List.replicate counted.1 0 ++ ·) whole).trans
          (countZeros_append (b :: src) 0).2

theorem copyRun_append (bytes rest : List UInt8) (room : bytes.length ≤ dsize) :
    copyRun bytes.length (bytes ++ rest) dsize = (bytes, rest) := by
  induction bytes generalizing dsize with
  | nil => cases dsize <;> rfl
  | cons b bytes ih =>
      cases dsize with
      | zero => exact absurd room (Nat.not_succ_le_zero _)
      | succ dsize =>
          rw [List.length_cons, List.cons_append, copyRun, ih (Nat.le_of_succ_le_succ room)]

theorem nonzero_count : ∀ count : Fin 128, count ≠ 0 →
    UInt8.ofNat count ≠ 0 ∧ UInt8.ofNat count &&& 0x80 = 0 ∧ (UInt8.ofNat count).toNat = count := by
  decide

theorem zeros_count : ∀ count : Fin 128, UInt8.ofNat (count ||| 0x80) ≠ 0 ∧
    UInt8.ofNat (count ||| 0x80) &&& 0x80 ≠ 0 ∧
    (UInt8.ofNat (count ||| 0x80) &&& 0x7f).toNat = count := by
  decide

theorem rleDecompress_run (run : Run) (rest : List UInt8) (room : run.content.length < dsize) :
    rleDecompress (run.code ++ rest) dsize =
      (run.content ++ (rleDecompress rest (dsize - run.content.length)).1,
        (rleDecompress rest (dsize - run.content.length)).2) := by
  have space : dsize ≠ 0 := Nat.ne_of_gt (Nat.zero_lt_of_lt room)
  cases run with
  | nonzero bytes starts short =>
      obtain ⟨go, plain, read⟩ := nonzero_count ⟨bytes.length, Nat.lt_succ_of_le short⟩
        fun empty => starts (List.length_eq_zero_iff.mp (congrArg Fin.val empty))
      rw [Run.code, List.cons_append, rleDecompress, if_neg space, if_neg go,
        if_neg (not_not.mpr plain), read, copyRun_append bytes rest (Nat.le_of_lt room)]
      rfl
  | zeros count starts short =>
      obtain ⟨go, high, read⟩ := zeros_count ⟨count, Nat.lt_succ_of_le short⟩
      have counted : (Run.zeros count starts short).content.length = count :=
        List.length_replicate
      rw [counted] at room ⊢
      have whole : min count dsize = count := Nat.min_eq_left (Nat.le_of_lt room)
      rw [Run.code, List.cons_append, rleDecompress, if_neg space, if_neg go, if_pos high, read,
        whole]
      rfl

/-- A sequence of runs and a stop byte are read back up to the rest. -/
theorem rleDecompress_runs (runs : List Run) (rest : List UInt8)
    (room : (runs.flatMap Run.content).length < dsize) :
    rleDecompress (runs.flatMap Run.code ++ 0 :: rest) dsize =
      (runs.flatMap Run.content, rest) := by
  induction runs generalizing dsize with
  | nil =>
      have space : dsize ≠ 0 := Nat.ne_of_gt room
      rw [List.flatMap_nil, List.nil_append, rleDecompress, if_neg space, if_pos rfl]
      rfl
  | cons run runs ih =>
      rw [List.flatMap_cons, List.length_append] at room
      have later : (runs.flatMap Run.content).length < dsize - run.content.length := by omega
      rw [List.flatMap_cons, List.append_assoc, rleDecompress_run run _ (by omega), ih later]
      rfl

/-- Decompression gives back what compression consumed, and stops at the rest. -/
theorem rleDecompress_rleCompress (dsize : Nat) :
    ∃ consumed, consumed ++ (rleCompress src dsize).2 = src ∧
      ∀ room, src.length < room →
        rleDecompress ((rleCompress src dsize).1 ++ rest) room = (consumed, rest) := by
  obtain ⟨runs, written, whole⟩ := compressRuns_eq_code src dsize
  refine ⟨runs.flatMap Run.content, whole, fun room fits => ?_⟩
  have length := congrArg List.length whole
  rw [List.length_append] at length
  rw [rleCompress, written, List.append_assoc]
  exact rleDecompress_runs runs rest (by omega)

theorem copyNonzero_room (room : 1 ≤ dsize) :
    (copyNonzero src count dsize).1.length + 1 ≤ dsize := by
  induction src generalizing count dsize with
  | nil => exact room
  | cons b src ih =>
      rw [copyNonzero]
      split
      · rename_i copied
        have next := ih (count + 1) (Nat.le_sub_one_of_lt copied.2.2)
        rw [List.length_cons]
        omega
      · exact room

/-- There is always room for the stop byte. -/
theorem compressRuns_room (room : 1 ≤ dsize) : (compressRuns src dsize).1.length + 1 ≤ dsize := by
  induction src, dsize using compressRuns.induct with
  | case1 dsize =>
      rw [compressRuns]
      exact room
  | case2 dsize b src full =>
      rw [compressRuns, dif_pos full]
      exact room
  | case3 dsize b src full nonzero copied ih =>
      have inside : copied.1.length + 1 ≤ dsize - 1 := copyNonzero_room _ 0 (by omega)
      have next := ih (by omega)
      rw [compressRuns, dif_neg full, dif_pos nonzero]
      simp only [List.length_cons, List.length_append, List.cons_append]
      change copied.1.length + (compressRuns copied.2 (dsize - 1 - copied.1.length)).1.length +
        1 + 1 ≤ dsize
      omega
  | case4 dsize b src full zero counted ih =>
      have next := ih (by omega)
      rw [compressRuns, dif_neg full, dif_neg zero]
      change (compressRuns counted.2 (dsize - 1)).1.length + 1 + 1 ≤ dsize
      omega

/-- How a run of non-zero bytes ends. -/
theorem copyNonzero_ends {count : Nat} (dsize : Nat) (short : count ≤ 127) :
    (copyNonzero src count dsize).2 = [] ∨ (copyNonzero src count dsize).2.head? = some 0 ∨
      count + (copyNonzero src count dsize).1.length = 127 ∨
      dsize ≤ (copyNonzero src count dsize).1.length + 1 := by
  induction src generalizing count dsize with
  | nil => exact Or.inl rfl
  | cons b src ih =>
      rw [copyNonzero]
      split
      · rename_i copied
        obtain empty | zero | whole | full := ih (dsize - 1) (show count + 1 ≤ 127 from copied.2.1)
        · exact Or.inl empty
        · exact Or.inr (Or.inl zero)
        · exact Or.inr (Or.inr (Or.inl (by rw [List.length_cons]; omega)))
        · exact Or.inr (Or.inr (Or.inr (by rw [List.length_cons]; omega)))
      · rename_i stops
        by_cases zero : b = 0
        · exact Or.inr (Or.inl (congrArg some zero))
        · by_cases whole : count < 127
          · exact Or.inr (Or.inr (Or.inr (Nat.le_of_not_lt fun space =>
              stops ⟨zero, whole, space⟩)))
          · exact Or.inr (Or.inr (Or.inl (Nat.le_antisymm short (Nat.le_of_not_lt whole))))

/-- Room enough for the source, whatever its runs are; a little less will do if it starts
with a zero. -/
def Enough (src : List UInt8) (dsize : Nat) : Prop :=
  3 * src.length + 3 ≤ 2 * dsize ∨ src.head? = some 0 ∧ 3 * src.length + 2 ≤ 2 * dsize

theorem compressRuns_consumes (enough : Enough src dsize) : (compressRuns src dsize).2 = [] := by
  induction src, dsize using compressRuns.induct with
  | case1 dsize => rw [compressRuns]
  | case2 dsize b src full =>
      rw [Enough, List.length_cons] at enough
      omega
  | case3 dsize b src full nonzero copied ih =>
      rw [compressRuns, dif_neg full, dif_pos nonzero]
      change (compressRuns copied.2 (dsize - 1 - copied.1.length)).2 = []
      by_cases empty : copied.2 = []
      · rw [empty, compressRuns]
      · apply ih
        have whole : copied.1.length + copied.2.length = (b :: src).length :=
          List.length_append.symm.trans (congrArg List.length (copyNonzero_append ..))
        have starts : copied.2.length < (b :: src).length :=
          copyNonzero_length_lt nonzero (by omega)
        have left : 1 ≤ copied.2.length := List.length_pos_iff.mpr empty
        have room : 3 * (b :: src).length + 3 ≤ 2 * dsize :=
          enough.resolve_right fun zero => nonzero (Option.some.inj zero.1)
        obtain none | zero | (limit : 0 + copied.1.length = 127) |
            (cramped : dsize - 1 ≤ copied.1.length + 1) :=
          copyNonzero_ends (b :: src) (dsize - 1) (Nat.zero_le 127)
        · exact absurd none empty
        · exact Or.inr ⟨zero, by omega⟩
        · exact Or.inl (by omega)
        · exact Or.inl (by omega)
  | case4 dsize b src full zero counted ih =>
      rw [compressRuns, dif_neg full, dif_neg zero]
      apply ih
      have starts : counted.2.length < (b :: src).length :=
        countZeros_length_lt (not_not.mp zero)
      rw [Enough] at enough ⊢
      omega

theorem compressRuns_one (b : UInt8) : (compressRuns [b] 2).2 = [b] := by
  rw [compressRuns, dif_pos (Nat.le_refl 2)]

/-- With room for four bytes, a zero behind another byte does not fit. -/
theorem compressRuns_two (a b : UInt8) :
    (compressRuns [a, b] 4).2 = [] ↔ ¬ (a ≠ 0 ∧ b = 0) := by
  by_cases first : a = 0
  · have consumed : (compressRuns [a, b] 4).2 = [] :=
      compressRuns_consumes _ (Or.inr ⟨congrArg some first, Nat.le_refl 8⟩)
    exact ⟨fun _ both => both.1 first, fun _ => consumed⟩
  · rw [compressRuns, dif_neg (by decide), dif_pos first]
    by_cases second : b = 0
    · have run : copyNonzero [a, b] 0 3 = ([a], [b]) := by
        rw [copyNonzero, if_pos ⟨first, by decide, by decide⟩, copyNonzero,
          if_neg fun copied => copied.1 second]
      simp only [Nat.reduceSub, run, List.length_singleton, compressRuns_one]
      exact ⟨fun none => absurd none (List.cons_ne_nil _ _),
        fun fits => absurd ⟨first, second⟩ fits⟩
    · have run : copyNonzero [a, b] 0 3 = ([a, b], []) := by
        rw [copyNonzero, if_pos ⟨first, by decide, by decide⟩, copyNonzero,
          if_pos ⟨second, by decide, by decide⟩, copyNonzero]
      simp only [Nat.reduceSub, run, compressRuns]
      exact ⟨fun _ both => second both.2, fun _ => trivial⟩

/-- What is compressed is read back up to the rest, twice its size is room enough, and
all of it is consumed but for one byte or a zero behind another byte. -/
theorem rle_roundTrip (src rest : List UInt8) (nonempty : src ≠ []) :
    (rleCompress src (2 * src.length)).1.length ≤ 2 * src.length ∧
      (∃ consumed, consumed ++ (rleCompress src (2 * src.length)).2 = src ∧
        rleDecompress ((rleCompress src (2 * src.length)).1 ++ rest) (src.length + 2) =
          (consumed, rest)) ∧
      ((rleCompress src (2 * src.length)).2 = [] ↔
        3 ≤ src.length ∨ ∃ a b, src = [a, b] ∧ ¬ (a ≠ 0 ∧ b = 0)) := by
  have length : 1 ≤ src.length := List.length_pos_iff.mpr nonempty
  refine ⟨?_, ?_, ?_⟩
  · rw [rleCompress, List.length_append]
    exact compressRuns_room src (by omega)
  · obtain ⟨consumed, whole, read⟩ := rleDecompress_rleCompress src rest (2 * src.length)
    exact ⟨consumed, whole, read _ (by omega)⟩
  · match src, length with
    | [b], _ =>
        constructor
        · intro consumed
          rw [rleCompress, List.length_singleton, compressRuns_one] at consumed
          cases consumed
        · rintro (long | ⟨_, _, two, _⟩)
          · exact absurd long (by simp)
          · cases two
    | [a, b], _ =>
        refine (compressRuns_two a b).trans ⟨fun fits => Or.inr ⟨a, b, rfl, fits⟩, ?_⟩
        rintro (long | ⟨_, _, two, fits⟩)
        · exact absurd long (by simp)
        · cases two
          exact fits
    | a :: b :: c :: src, _ =>
        have long : 3 ≤ (a :: b :: c :: src).length := by simp
        exact ⟨fun _ => Or.inl long, fun _ => compressRuns_consumes _ (Or.inl (by omega))⟩

/-- Three bytes in a longer stream. -/
theorem rle_roundTrip_three :
    (rleCompress [1, 0, 2] 6).1.length ≤ 6 ∧
      (∃ consumed, consumed ++ (rleCompress [1, 0, 2] 6).2 = [1, 0, 2] ∧
        rleDecompress ((rleCompress [1, 0, 2] 6).1 ++ [7]) 5 = (consumed, [7])) ∧
      ((rleCompress [1, 0, 2] 6).2 = [] ↔
        3 ≤ [1, 0, 2].length ∨ ∃ a b : UInt8, [1, 0, 2] = [a, b] ∧ ¬ (a ≠ 0 ∧ b = 0)) :=
  rle_roundTrip [1, 0, 2] [7] (List.cons_ne_nil _ _)

/-- One byte is not consumed. -/
theorem rleCompress_one : (rleCompress [1] (2 * [(1 : UInt8)].length)).2 ≠ [] := by
  rw [rleCompress, List.length_singleton, compressRuns_one]
  exact List.cons_ne_nil _ _

end L2tpns.Cluster
