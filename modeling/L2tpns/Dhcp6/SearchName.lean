import L2tpns.Foundation.Counted
import Mathlib.Data.List.TakeWhile

/-! # The search name in DHCPv6 replies

The length of a name on the wire is known before its labels are written, and the loop writes that
many bytes: the labels, each behind its length, and an empty one
(`L2tpns.Dhcp6.searchName_encodes`).
-/

namespace L2tpns.Dhcp6

open Foundation

def dot : UInt8 := 0x2e

/-- The loop of `dhcpv6_format_dns_search_name` at a part of the name: whether it was left with a
name, and the bytes that it has written. -/
def formatLabels (strdns : List UInt8) : Bool × List UInt8 :=
  let label := strdns.takeWhile (· ≠ dot)
  if 63 < label.length then (false, [])
  else
    match _rest : strdns.dropWhile (· ≠ dot) with
    | [] => (true, UInt8.ofNat label.length :: label ++ [0])
    | _ :: next =>
        if next = [] then (true, UInt8.ofNat label.length :: label ++ [0])
        else
          let (ok, written) := formatLabels next
          (ok, UInt8.ofNat label.length :: label ++ written)
termination_by strdns.length
decreasing_by
  have shorter := congrArg List.length _rest
  have bound := (strdns.dropWhile_sublist (· ≠ dot)).length_le
  rw [List.length_cons] at shorter
  omega

/-- `dhcpv6_format_dns_search_name`: what it returns and the bytes that it writes. There is no
result for an empty name, of which it reads the byte before the first. The name is part of the
configuration, an array of 255 bytes. -/
def dhcpv6FormatDnsSearchName (strdns : List UInt8) : Option (Nat × List UInt8) :=
  strdns.getLast?.map fun last =>
    let n := if last = dot then strdns.length + 1 else strdns.length + 2
    if 255 < n then (0, [])
    else
      let (ok, written) := formatLabels strdns
      (if ok then n else 0, written)

/-- Labels with dots between them, and maybe one behind the last. -/
def dotted (trailing : Bool) : List (List UInt8) → List UInt8
  | [] => []
  | [label] => if trailing then label ++ [dot] else label
  | label :: labels => label ++ dot :: dotted trailing labels

def encodeName (labels : List (List UInt8)) : List UInt8 := Counted.encode labels ++ [0]

variable {labels : List (List UInt8)} {label rest : List UInt8} {trailing : Bool}

/-- Labels as they stand in a name. -/
structure AreLabels (labels : List (List UInt8)) : Prop where
  some : labels ≠ []
  nonempty : ∀ label ∈ labels, label ≠ []
  undotted : ∀ label ∈ labels, dot ∉ label

theorem takeWhile_label (undotted : dot ∉ label) (rest : List UInt8) :
    (label ++ dot :: rest).takeWhile (· ≠ dot) = label ∧
      (label ++ dot :: rest).dropWhile (· ≠ dot) = dot :: rest := by
  have all : ∀ byte ∈ label, decide (byte ≠ dot) = true := fun byte mem =>
    decide_eq_true fun same => undotted (same ▸ mem)
  rw [List.takeWhile_append_of_pos all, List.dropWhile_append_of_pos all]
  simp

theorem takeWhile_last (undotted : dot ∉ label) :
    label.takeWhile (· ≠ dot) = label ∧ label.dropWhile (· ≠ dot) = [] := by
  have all : ∀ byte ∈ label, decide (byte ≠ dot) = true := fun byte mem =>
    decide_eq_true fun same => undotted (same ▸ mem)
  exact ⟨List.takeWhile_eq_self_iff.mpr all, List.dropWhile_eq_nil_iff.mpr all⟩

theorem formatLabels_end {strdns : List UInt8} (takes : strdns.takeWhile (· ≠ dot) = label)
    (drops : strdns.dropWhile (· ≠ dot) = []) :
    formatLabels strdns =
      if 63 < label.length then (false, [])
      else (true, UInt8.ofNat label.length :: label ++ [0]) := by
  rw [formatLabels, takes]
  split_ifs
  · rfl
  split
  · rfl
  · rename_i same
    exact absurd (drops.symm.trans same) nofun

/-- Behind a dot the loop goes on, if there is more. -/
theorem formatLabels_dot {strdns : List UInt8} {c : UInt8}
    (takes : strdns.takeWhile (· ≠ dot) = label)
    (drops : strdns.dropWhile (· ≠ dot) = c :: rest) :
    formatLabels strdns =
      if 63 < label.length then (false, [])
      else if rest = [] then (true, UInt8.ofNat label.length :: label ++ [0])
      else ((formatLabels rest).1, UInt8.ofNat label.length :: label ++ (formatLabels rest).2) := by
  rw [formatLabels, takes]
  by_cases long : 63 < label.length
  · rw [if_pos long, if_pos long]
  rw [if_neg long, if_neg long]
  split
  · rename_i same
    exact absurd (drops.symm.trans same) nofun
  · rename_i next same
    obtain ⟨-, rfl⟩ := List.cons.inj (drops.symm.trans same)
    rfl

theorem encodeName_cons (label : List UInt8) (labels : List (List UInt8)) :
    encodeName (label :: labels) = UInt8.ofNat label.length :: label ++ encodeName labels := by
  simp [encodeName]

theorem dotted_cons (label : List UInt8) (more : labels ≠ []) :
    dotted trailing (label :: labels) = label ++ dot :: dotted trailing labels := by
  cases labels with
  | nil => exact absurd rfl more
  | cons next labels => rfl

theorem AreLabels.dotted_ne (areLabels : AreLabels labels) : dotted trailing labels ≠ [] := by
  obtain ⟨some, nonempty, -⟩ := areLabels
  cases labels with
  | nil => exact absurd rfl some
  | cons label labels =>
      have first := nonempty label List.mem_cons_self
      cases labels with
      | nil => cases trailing <;> simp [dotted, first]
      | cons next labels => simp [dotted]

theorem formatLabels_last (undotted : dot ∉ label) :
    formatLabels (dotted trailing [label]) =
      if 63 < label.length then (false, []) else (true, encodeName [label]) := by
  have encoded : encodeName [label] = UInt8.ofNat label.length :: label ++ [0] :=
    encodeName_cons label []
  rw [encoded]
  cases trailing with
  | false =>
      obtain ⟨takes, drops⟩ := takeWhile_last undotted
      exact formatLabels_end takes drops
  | true =>
      obtain ⟨takes, drops⟩ := takeWhile_label undotted []
      exact (formatLabels_dot takes drops).trans (by rw [if_pos rfl])

/-- **The loop writes the labels**, up to one that is too long. -/
theorem formatLabels_dotted (areLabels : AreLabels labels) (trailing : Bool) :
    ((∃ label ∈ labels, 63 < label.length) → (formatLabels (dotted trailing labels)).1 = false) ∧
      ((∀ label ∈ labels, label.length ≤ 63) →
        formatLabels (dotted trailing labels) = (true, encodeName labels)) ∧
      (formatLabels (dotted trailing labels)).2.length ≤ (encodeName labels).length := by
  induction labels with
  | nil => exact absurd rfl areLabels.some
  | cons label labels ih =>
      have undotted := areLabels.undotted label List.mem_cons_self
      by_cases last : labels = []
      · rw [last, formatLabels_last undotted]
        by_cases long : 63 < label.length
        · simp [long]
        · simp [long]
      have behind : AreLabels labels :=
        ⟨last, fun other mem => areLabels.nonempty other (List.mem_cons_of_mem label mem),
          fun other mem => areLabels.undotted other (List.mem_cons_of_mem label mem)⟩
      obtain ⟨takes, drops⟩ := takeWhile_label undotted (dotted trailing labels)
      obtain ⟨refused, formatted, room⟩ := ih behind
      rw [dotted_cons label last, formatLabels_dot takes drops, if_neg behind.dotted_ne,
        encodeName_cons]
      by_cases long : 63 < label.length
      · rw [if_pos long]
        exact ⟨fun _ => rfl, fun short => absurd (short label List.mem_cons_self) (not_le.mpr long),
          by simp⟩
      rw [if_neg long]
      refine ⟨?_, fun short => ?_, ?_⟩
      · rintro ⟨other, mem, exceeds⟩
        rcases List.mem_cons.mp mem with rfl | mem
        · exact absurd exceeds long
        · exact refused ⟨other, mem, exceeds⟩
      · rw [formatted fun other mem => short other (List.mem_cons_of_mem label mem)]
      · simpa using room

theorem length_known (areLabels : AreLabels labels) (trailing : Bool) :
    ∃ last, (dotted trailing labels).getLast? = some last ∧
      (if last = dot then (dotted trailing labels).length + 1
        else (dotted trailing labels).length + 2) = (encodeName labels).length := by
  induction labels with
  | nil => exact absurd rfl areLabels.some
  | cons label labels ih =>
      by_cases last : labels = []
      · rw [last]
        cases trailing with
        | true => exact ⟨dot, by simp [dotted], by simp [dotted, encodeName]⟩
        | false =>
            have some := areLabels.nonempty label List.mem_cons_self
            refine ⟨label.getLast some, List.getLast?_eq_some_getLast some, ?_⟩
            have other : label.getLast some ≠ dot := fun same =>
              areLabels.undotted label List.mem_cons_self (same ▸ List.getLast_mem some)
            rw [if_neg other]
            simp [dotted, encodeName]
      have behind : AreLabels labels :=
        ⟨last, fun other mem => areLabels.nonempty other (List.mem_cons_of_mem label mem),
          fun other mem => areLabels.undotted other (List.mem_cons_of_mem label mem)⟩
      obtain ⟨byte, ends, length⟩ := ih behind
      refine ⟨byte, ?_, ?_⟩
      · rw [dotted_cons label last, List.getLast?_append, List.getLast?_cons, ends]
        rfl
      · rw [dotted_cons label last, encodeName_cons]
        simp only [List.length_append, List.length_cons]
        split_ifs at length ⊢ <;> omega

/-- The labels are too long for their length bytes, or the name is too long for the buffer. -/
def Refused (labels : List (List UInt8)) : Prop :=
  (∃ label ∈ labels, 63 < label.length) ∨ 255 < (encodeName labels).length

/-- **Search names.** The function returns 0 when a label has more than 63 bytes or the encoding
more than 255. Otherwise it writes the encoding and returns its length, and the labels are read
back from it. -/
theorem searchName_encodes (labels : List (List UInt8)) (areLabels : AreLabels labels)
    (trailing : Bool) :
    ∃ n written, dhcpv6FormatDnsSearchName (dotted trailing labels) = some (n, written) ∧
      (Refused labels → n = 0) ∧
      (¬ Refused labels → n ≤ 255 ∧ written.length = n ∧ written = encodeName labels ∧
        Counted.decode written = some (labels, [])) := by
  obtain ⟨last, ends, length⟩ := length_known areLabels trailing
  obtain ⟨refused, formatted, -⟩ := formatLabels_dotted areLabels trailing
  rw [dhcpv6FormatDnsSearchName, ends, Option.map_some]
  dsimp only
  rw [length]
  by_cases long : 255 < (encodeName labels).length
  · rw [if_pos long]
    exact ⟨0, [], rfl, fun _ => rfl, fun accepted => absurd (.inr long) accepted⟩
  rw [if_neg long]
  refine ⟨_, _, rfl, fun refuses => ?_, fun accepted => ?_⟩
  · rw [refused (refuses.resolve_right long)]
    rfl
  · have short : ∀ label ∈ labels, label.length ≤ 63 := fun label mem =>
      not_lt.mp fun exceeds => accepted (.inl ⟨label, mem, exceeds⟩)
    rw [formatted short]
    refine ⟨not_lt.mp long, rfl, rfl, ?_⟩
    exact Counted.decode_encode fun label mem =>
      ⟨areLabels.nonempty label mem, (short label mem).trans (by decide)⟩

theorem formatLabels_length (strdns : List UInt8) (some : strdns ≠ [])
    (left : (formatLabels strdns).1) :
    (formatLabels strdns).2.length =
      if strdns.getLast some = dot then strdns.length + 1 else strdns.length + 2 := by
  induction size : strdns.length using Nat.strong_induction_on generalizing strdns with
  | _ length ih =>
      by_cases dots : dot ∈ strdns
      · obtain ⟨label, rest, rfl, undotted⟩ := List.eq_append_cons_of_mem dots
        obtain ⟨takes, drops⟩ := takeWhile_label undotted rest
        rw [formatLabels_dot takes drops] at left ⊢
        rw [List.length_append, List.length_cons] at size
        split_ifs at left with long last
        · rw [if_neg long, if_pos last]
          simp only [last, List.getLast_concat, if_true, List.length_cons, List.length_append,
            List.length_nil] at size ⊢
          omega
        · have behind := ih rest.length (by omega) rest last left rfl
          have ends : (label ++ dot :: rest).getLast some = rest.getLast last := by
            rw [List.getLast_append_of_ne_nil _ (List.cons_ne_nil _ _), List.getLast_cons last]
          rw [if_neg long, if_neg last, ends]
          simp only [List.length_cons, List.length_append, behind]
          split_ifs <;> omega
      · obtain ⟨takes, drops⟩ := takeWhile_last dots
        have other : strdns.getLast some ≠ dot := fun same => dots (same ▸ List.getLast_mem some)
        rw [formatLabels_end takes drops] at left ⊢
        split_ifs at left with long
        rw [if_neg long, if_neg other]
        simp [size]

theorem searchName_length {strdns written : List UInt8} {n : Nat}
    (formats : dhcpv6FormatDnsSearchName strdns = some (n, written)) (accepted : 0 < n) :
    written.length = n ∧ n ≤ 255 := by
  by_cases empty : strdns = []
  · rw [dhcpv6FormatDnsSearchName, empty] at formats
    exact nomatch formats
  rw [dhcpv6FormatDnsSearchName, List.getLast?_eq_some_getLast empty, Option.map_some,
    Option.some_inj] at formats
  dsimp only at formats
  generalize known : (if strdns.getLast empty = dot then strdns.length + 1
    else strdns.length + 2) = length at formats
  split_ifs at formats with long left
  · cases formats
    exact absurd accepted (Nat.lt_irrefl 0)
  · cases formats
    exact ⟨(formatLabels_length strdns empty left).trans known, not_lt.mp long⟩
  · cases formats
    exact absurd accepted (Nat.lt_irrefl 0)

/-- A name of two labels, with a dot behind it. -/
theorem searchName_two : ∃ n written,
    dhcpv6FormatDnsSearchName (dotted true [[0x61, 0x62], [0x63]]) = some (n, written) ∧
      (Refused [[0x61, 0x62], [0x63]] → n = 0) ∧
      (¬ Refused [[0x61, 0x62], [0x63]] → n ≤ 255 ∧ written.length = n ∧
        written = encodeName [[0x61, 0x62], [0x63]] ∧
        Counted.decode written = some ([[0x61, 0x62], [0x63]], [])) :=
  searchName_encodes _ ⟨by decide, by decide, by decide⟩ true

end L2tpns.Dhcp6
