import Mathlib.Data.List.Induction

/-! # Bases of distinct entries with limited room

An entry is entered at the end of a base, unless the base has it already or is full. What a
series of entries leaves is the entries in the order in which they first came, cut where the
room ends (`Foundation.RuleBase.foldl_enter`).
-/

namespace Foundation.RuleBase

variable {α : Type*} [DecidableEq α]

def enter (room : Nat) (entries : List α) (entry : α) : List α :=
  if entry ∈ entries ∨ room ≤ entries.length then entries else entries ++ [entry]

theorem eraseDups_append_singleton (entries : List α) (entry : α) :
    (entries ++ [entry]).eraseDups =
      if entry ∈ entries then entries.eraseDups else entries.eraseDups ++ [entry] := by
  rw [List.eraseDups_append]
  by_cases known : entry ∈ entries
  · simp [known, List.removeAll]
  · simp [known, List.removeAll, List.eraseDups_cons]

/-- **First come, first entered.** -/
theorem foldl_enter (room : Nat) (entries : List α) :
    entries.foldl (enter room) [] = entries.eraseDups.take room := by
  induction entries using List.reverseRecOn with
  | nil => simp
  | append_singleton entries entry ih =>
      rw [List.foldl_append, ih, List.foldl_cons, List.foldl_nil, eraseDups_append_singleton,
        enter]
      by_cases full : room ≤ entries.eraseDups.length
      · have cut : (entries.eraseDups.take room).length = room := by simp [full]
        rw [if_pos (.inr (Nat.le_of_eq cut.symm))]
        split
        · rfl
        · rw [List.take_append_of_le_length full]
      · have all : entries.eraseDups.take room = entries.eraseDups :=
          List.take_of_length_le (by omega)
        rw [all]
        by_cases known : entry ∈ entries
        · simp [known, all]
        · rw [if_neg (by simp [known, full]), if_neg known, List.take_of_length_le]
          simp only [List.length_append, List.length_singleton]
          omega

/-- Dropping repetitions commutes with a renaming. -/
theorem eraseDups_map {β : Type*} [DecidableEq β] {f : α → β} {entries : List α}
    (injective : ∀ a ∈ entries, ∀ b ∈ entries, f a = f b → a = b) :
    (entries.map f).eraseDups = entries.eraseDups.map f := by
  induction entries using List.reverseRecOn with
  | nil => rfl
  | append_singleton entries entry ih =>
      rw [List.map_append, List.map_singleton, eraseDups_append_singleton,
        eraseDups_append_singleton, ih fun a aMem b bMem =>
          injective a (by simp [aMem]) b (by simp [bMem])]
      by_cases known : entry ∈ entries
      · rw [if_pos known, if_pos (List.mem_map_of_mem known)]
      · rw [if_neg known, if_neg, List.map_append, List.map_singleton]
        intro mem
        obtain ⟨a, aMem, same⟩ := List.mem_map.mp mem
        exact known (injective a (by simp [aMem]) entry (by simp) same ▸ aMem)

theorem eraseDups_eq_self {entries : List α} (distinct : entries.Nodup) :
    entries.eraseDups = entries := by
  induction entries using List.reverseRecOn with
  | nil => rfl
  | append_singleton entries entry ih =>
      rw [List.nodup_append] at distinct
      have fresh : entry ∉ entries := fun mem => distinct.2.2 entry mem entry (by simp) rfl
      rw [eraseDups_append_singleton, if_neg fresh, ih distinct.1]

theorem foldl_enter_nodup {room : Nat} {entries : List α} (distinct : entries.Nodup)
    (fits : entries.length ≤ room) : entries.foldl (enter room) [] = entries := by
  rw [foldl_enter, eraseDups_eq_self distinct, List.take_of_length_le fits]

theorem enter_cons {first entry : α} (other : first ≠ entry) (room : Nat) (entries : List α) :
    enter (room + 1) (first :: entries) entry = first :: enter room entries entry := by
  unfold enter
  by_cases there : entry ∈ entries ∨ room ≤ entries.length
  · rw [if_pos there, if_pos (there.imp (by simp +contextual) (by simp))]
  · rw [if_neg there, if_neg, List.cons_append]
    simpa [Ne.symm other] using there

theorem mem_enter {room : Nat} {entries : List α} {entry a : α}
    (mem : a ∈ enter room entries entry) : a ∈ entries ∨ a = entry := by
  unfold enter at mem
  split at mem
  · exact .inl mem
  · simpa using mem

theorem enter_nodup {room : Nat} {entries : List α} (distinct : entries.Nodup) (entry : α) :
    (enter room entries entry).Nodup := by
  unfold enter
  split
  · exact distinct
  · rename_i fresh
    exact List.nodup_append.mpr ⟨distinct, by simp, by
      rintro a mem b last rfl
      exact fresh (.inl (by simpa using (List.mem_singleton.mp last) ▸ mem))⟩

theorem enter_length {room : Nat} {entries : List α} (fits : entries.length ≤ room) (entry : α) :
    (enter room entries entry).length ≤ room := by
  unfold enter
  split
  · exact fits
  · simp only [List.length_append, List.length_singleton]
    omega

end Foundation.RuleBase
