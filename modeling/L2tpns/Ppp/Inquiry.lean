import L2tpns.Ppp.Verdict
import Mathlib.Data.List.Flatten

/-! # The options of a request that are acted on

A request is answered as it should be exactly if the options that call for an answer are acted on,
there is room for what they call for, and no suggestion is overdue
(`L2tpns.Answering.Inquiry.answered_iff`).
-/

namespace L2tpns.Answering

open Avp (Memory readBytes writeBytes)
open Server

/-- Leaving out elements keeps what all of them give exactly if those left out give nothing. -/
theorem flatMap_filter_eq_iff {α β : Type} {p : α → Bool} {f : α → List β} {list : List α} :
    (list.filter p).flatMap f = list.flatMap f ↔ ∀ a ∈ list, p a = false → f a = [] := by
  induction list with
  | nil => simp
  | cons a rest ih =>
      rw [List.forall_mem_cons, ← ih]
      by_cases kept : p a = true
      · simp [kept]
      · have shorter : ((rest.filter p).flatMap f).length ≤ (rest.flatMap f).length :=
          (List.filter_sublist.flatMap f).length_le
        simp only [kept, List.filter_cons, Bool.false_eq_true, ↓reduceIte, List.flatMap_cons,
          true_imp_iff]
        constructor
        · intro same
          have none : f a = [] := by
            have lengths := congrArg List.length same
            rw [List.length_append] at lengths
            exact List.length_eq_zero_iff.mp (by omega)
          exact ⟨none, by simpa [none] using same⟩
        · rintro ⟨none, same⟩
          rw [none, List.nil_append, same]

/-- A request whose options are at some offsets: the verdict on each option, and whether it is
acted on. -/
structure Inquiry where
  limit : Nat
  header : Nat
  nakSent : Nat
  options : List Nat
  judge : Nat → Judged
  acts : Nat → Bool

namespace Inquiry

variable (inquiry : Inquiry)

/-- No suggestion is begun any more. -/
def exhausted : Bool := inquiry.limit ≤ inquiry.nakSent

/-- The verdict on all options. -/
def judged : List Judged := inquiry.options.map inquiry.judge

/-- The verdict on the options that are acted on. -/
def handled : List Judged := (inquiry.options.filter inquiry.acts).map inquiry.judge

def Refuses (o : Nat) : Prop := (inquiry.judge o).refused inquiry.exhausted = true

def Improves (o : Nat) : Prop := (inquiry.judge o).improves = true

def answer : Answer :=
  (collected inquiry.limit inquiry.header inquiry.nakSent inquiry.handled).answer

/-- The options that call for an answer are acted on, what is called for has room, and no
suggestion is overdue. `l` is the length of the request. -/
structure Sound (l : Nat) : Prop where
  refusals : ∀ o ∈ inquiry.options, inquiry.Refuses o → inquiry.acts o = true
  improvements : (∀ o ∈ inquiry.options, ¬ inquiry.Refuses o) →
    ∀ o ∈ inquiry.options, inquiry.Improves o → inquiry.acts o = true
  rejected : (∃ o ∈ inquiry.options, inquiry.Refuses o) →
    inquiry.header + 4 + (rejections inquiry.exhausted inquiry.judged).length ≤ maxEther ∧
      ¬ Overdue inquiry.limit inquiry.nakSent inquiry.handled
  suggested : (∀ o ∈ inquiry.options, ¬ inquiry.Refuses o) →
    (∃ o ∈ inquiry.options, inquiry.Improves o) →
      inquiry.header + 4 + (inquiry.judged.flatMap Judged.suggestions).length ≤ maxEther
  acknowledged : (∀ o ∈ inquiry.options, ¬ inquiry.Refuses o ∧ ¬ inquiry.Improves o) →
    inquiry.header + l ≤ maxEther

/-- The headers and the options are of a size that occurs. -/
structure Sized : Prop where
  header : inquiry.header ≤ 22
  carried : ∀ o ∈ inquiry.options, inquiry.acts o = true → (inquiry.judge o).Carried
  nonempty : ∀ o ∈ inquiry.options, (inquiry.judge o).option ≠ []

variable {inquiry}

theorem any_refused :
    inquiry.judged.any (Judged.refused inquiry.exhausted) = true ↔
      ∃ o ∈ inquiry.options, inquiry.Refuses o := by
  simp [judged, Refuses]

theorem any_improves :
    inquiry.judged.any Judged.improves = true ↔ ∃ o ∈ inquiry.options, inquiry.Improves o := by
  simp [judged, Improves]

theorem handled_refused :
    inquiry.handled.any (Judged.refused inquiry.exhausted) = true ↔
      ∃ o ∈ inquiry.options, inquiry.acts o = true ∧ inquiry.Refuses o := by
  simp [handled, Refuses]

theorem handled_improves :
    inquiry.handled.any Judged.improves = true ↔
      ∃ o ∈ inquiry.options, inquiry.acts o = true ∧ inquiry.Improves o := by
  simp [handled, Improves]

theorem Sized.handled_carried (sized : inquiry.Sized) :
    ∀ judged ∈ inquiry.handled, judged.Carried := by
  intro judged member
  obtain ⟨o, filtered, rfl⟩ := List.mem_map.mp member
  obtain ⟨option, acts⟩ := List.mem_filter.mp filtered
  exact sized.carried o option acts

theorem rejections_map (exhausted : Bool) (judge : Nat → Judged) (options : List Nat) :
    rejections exhausted (options.map judge) =
      options.flatMap fun o => if (judge o).refused exhausted then (judge o).option else [] := by
  induction options with
  | nil => rfl
  | cons o rest ih =>
      rw [rejections] at ih ⊢
      by_cases refused : (judge o).refused exhausted = true
      · simp [refused, ih]
      · simp [refused, ih]

theorem Sized.rejections_eq_iff (sized : inquiry.Sized) :
    rejections inquiry.exhausted inquiry.handled = rejections inquiry.exhausted inquiry.judged ↔
      ∀ o ∈ inquiry.options, inquiry.Refuses o → inquiry.acts o = true := by
  rw [handled, judged, rejections_map, rejections_map, flatMap_filter_eq_iff]
  refine forall₂_congr fun o member => ?_
  have some := sized.nonempty o member
  by_cases refused : (inquiry.judge o).refused inquiry.exhausted = true
  · simp [Refuses, refused, some]
  · simp [Refuses, refused]

theorem suggestions_eq_nil {judged : Judged} :
    judged.suggestions = [] ↔ ¬ judged.improves = true := by
  obtain ⟨option, _ | values | _⟩ := judged
  · simp [Judged.suggestions, Judged.improves]
  · cases values with
    | nil => simp [Judged.suggestions, Judged.improves]
    | cons value rest => simp [Judged.suggestions, Judged.improves, Judged.suggest]
  · simp [Judged.suggestions, Judged.improves]

theorem suggestions_eq_iff :
    inquiry.handled.flatMap Judged.suggestions = inquiry.judged.flatMap Judged.suggestions ↔
      ∀ o ∈ inquiry.options, inquiry.Improves o → inquiry.acts o = true := by
  rw [handled, judged, List.flatMap_map, List.flatMap_map, flatMap_filter_eq_iff]
  refine forall₂_congr fun o _ => ?_
  rw [suggestions_eq_nil, Improves, ← Bool.not_eq_true]
  tauto

variable {options : List UInt8} {code : UInt8} {ident : Nat}

theorem controlPacket_inj {code' : UInt8} {options' : List UInt8} :
    controlPacket code ident options = controlPacket code' ident options' ↔
      code = code' ∧ options = options' := by
  constructor
  · intro same
    have heads := congrArg List.head? same
    have tails := congrArg (List.drop 4) same
    exact ⟨by simpa [controlPacket] using heads, by simpa [controlPacket, bytes16] using tails⟩
  · rintro ⟨rfl, rfl⟩
    rfl

/-- A request with another code. -/
def recoded (code : UInt8) (memory : Memory) (l : Nat) : List UInt8 :=
  readBytes (writeBytes memory 0 [code]) 0 l

theorem recoded_head {memory : Memory} {l : Nat} (some : 0 < l) :
    (recoded code memory l).head? = Option.some code := by
  obtain ⟨k, rfl⟩ := Nat.exists_eq_add_of_lt some
  simp [recoded, readBytes, List.range_succ_eq_map, writeBytes]

/-- The answer that the request calls for. -/
def required (inquiry : Inquiry) (memory : Memory) (l : Nat) : List UInt8 :=
  Answering.required inquiry.exhausted (memory 1).toNat (recoded configAck memory l) inquiry.judged

variable {memory : Memory} {l : Nat}

theorem packet_reply {lost : Bool} :
    (Answer.mk (.some ⟨code, options⟩) lost).packet memory l =
      if lost then [] else controlPacket code (memory 1).toNat options :=
  rfl

theorem packet_none : Answer.none.packet memory l = recoded configAck memory l := rfl

theorem controlPacket_ne_nil : controlPacket code ident options ≠ [] := by
  simp [controlPacket]

theorem recoded_ne (some : 0 < l)
    (other : code ≠ configAck) : recoded configAck memory l ≠ controlPacket code ident options := by
  intro same
  have heads := congrArg List.head? same
  rw [recoded_head some] at heads
  exact other (by simpa [controlPacket, eq_comm] using heads)

/-- What is collected when all options that are acted on are wanted. -/
theorem Sized.answer_wanted (sized : inquiry.Sized)
    (wanted : inquiry.handled.any (Judged.refused inquiry.exhausted) = false) :
    (inquiry.handled.any Judged.improves = false ∧ inquiry.answer = .none) ∨
      inquiry.handled.any Judged.improves = true ∧ ∃ next lost,
        inquiry.answer = ⟨.some ⟨configNak, next⟩, lost⟩ ∧
          (lost = false ↔
            inquiry.header + 4 + (inquiry.handled.flatMap Judged.suggestions).length ≤ maxEther) ∧
          (lost = false → next = inquiry.handled.flatMap Judged.suggestions) := by
  have carried := sized.handled_carried
  cases improves : inquiry.handled.any Judged.improves with
  | false =>
      refine .inl ⟨rfl, ?_⟩
      rw [answer, collected_none sized.header carried wanted improves]
  | true =>
      obtain ⟨next, lost, added, kept, contents⟩ :=
        collected_suggestion sized.header carried wanted improves
      refine .inr ⟨rfl, next, lost, ?_, kept, contents⟩
      rw [answer, added]
      rfl

/-- What is collected when an option that is acted on is refused. -/
theorem Sized.answer_refused (sized : inquiry.Sized)
    (refused : inquiry.handled.any (Judged.refused inquiry.exhausted) = true) :
    ∃ next lost,
      inquiry.answer = ⟨.some ⟨configRej, next⟩, lost⟩ ∧
        (lost = false ↔
          inquiry.header + 4 + (rejections inquiry.exhausted inquiry.handled).length ≤ maxEther ∧
            ¬ Overdue inquiry.limit inquiry.nakSent inquiry.handled) ∧
        (lost = false → next = rejections inquiry.exhausted inquiry.handled) := by
  obtain ⟨next, lost, rejected, whole, kept, contents⟩ :=
    collected_rejection sized.header sized.handled_carried refused
  refine ⟨next, lost, ?_, kept, contents⟩
  rw [answer, whole]
  rfl

/-- When an option is refused. -/
theorem Sized.answered_refusing (sized : inquiry.Sized)
    (refuses : ∃ o ∈ inquiry.options, inquiry.Refuses o) (some : 0 < l) :
    (inquiry.answer.packet memory l = inquiry.required memory l ∧
        (inquiry.answer.acks = true → inquiry.header + l ≤ maxEther)) ↔ inquiry.Sound l := by
  have needed : inquiry.required memory l = controlPacket configRej (memory 1).toNat
      (rejections inquiry.exhausted inquiry.judged) :=
    if_pos (any_refused.mpr refuses)
  rw [needed]
  by_cases begun : inquiry.handled.any (Judged.refused inquiry.exhausted) = true
  · obtain ⟨next, lost, answer, kept, contents⟩ := sized.answer_refused begun
    rw [answer, packet_reply]
    cases lost with
    | false =>
        have room := kept.mp rfl
        simp only [Bool.false_eq_true, ↓reduceIte, contents rfl, controlPacket_inj, true_and,
          Answer.acks, Option.isNone_some, false_imp_iff, and_true]
        refine sized.rejections_eq_iff.trans ⟨fun refusals => ?_, Sound.refusals⟩
        have same := sized.rejections_eq_iff.mpr refusals
        obtain ⟨o, option, refused⟩ := refuses
        rw [same] at room
        exact ⟨refusals, fun none => absurd refused (none o option), fun _ => room,
          fun none => absurd refused (none o option), fun good => absurd refused (good o option).1⟩
    | true =>
        refine iff_of_false (fun ⟨same, _⟩ => controlPacket_ne_nil same.symm) fun sound => ?_
        have same := sized.rejections_eq_iff.mpr sound.refusals
        have room := sound.rejected refuses
        rw [← same] at room
        exact nomatch kept.mpr room
  · have wanted : inquiry.handled.any (Judged.refused inquiry.exhausted) = false := by
      simpa using begun
    refine iff_of_false (fun ⟨same, _⟩ => ?_) fun sound => ?_
    · rcases sized.answer_wanted wanted with ⟨-, none⟩ | ⟨-, next, lost, suggests, -⟩
      · rw [none, packet_none] at same
        exact recoded_ne some (by decide) same
      · rw [suggests, packet_reply] at same
        cases lost with
        | false => exact absurd (controlPacket_inj.mp same).1 (by decide)
        | true => exact controlPacket_ne_nil same.symm
    · obtain ⟨o, option, refused⟩ := refuses
      exact begun (handled_refused.mpr ⟨o, option, sound.refusals o option refused, refused⟩)

/-- When no option is refused. -/
theorem Sized.answered_wanted (sized : inquiry.Sized)
    (wanted : ∀ o ∈ inquiry.options, ¬ inquiry.Refuses o) (some : 0 < l) :
    (inquiry.answer.packet memory l = inquiry.required memory l ∧
        (inquiry.answer.acks = true → inquiry.header + l ≤ maxEther)) ↔ inquiry.Sound l := by
  have idle : inquiry.handled.any (Judged.refused inquiry.exhausted) = false := by
    by_contra refused
    obtain ⟨o, option, -, refuses⟩ := handled_refused.mp (by simpa using refused)
    exact wanted o option refuses
  have unrefused : ¬ ∃ o ∈ inquiry.options, inquiry.Refuses o :=
    fun ⟨o, option, refuses⟩ => wanted o option refuses
  by_cases improves : ∃ o ∈ inquiry.options, inquiry.Improves o
  · have needed : inquiry.required memory l = controlPacket configNak (memory 1).toNat
        (inquiry.judged.flatMap Judged.suggestions) := by
      rw [required, Answering.required, if_neg (mt any_refused.mp unrefused),
        if_pos (any_improves.mpr improves)]
    rw [needed]
    rcases sized.answer_wanted idle with ⟨unimproved, none⟩ | ⟨-, next, lost, suggests, kept, all⟩
    · refine iff_of_false (fun ⟨same, _⟩ => ?_) fun sound => ?_
      · rw [none, packet_none] at same
        exact recoded_ne some (by decide) same
      · obtain ⟨o, option, improved⟩ := improves
        have acts := sound.improvements wanted o option improved
        rw [handled_improves.mpr ⟨o, option, acts, improved⟩] at unimproved
        exact nomatch unimproved
    · rw [suggests, packet_reply]
      cases lost with
      | false =>
          have room := kept.mp rfl
          simp only [Bool.false_eq_true, ↓reduceIte, all rfl, controlPacket_inj, true_and,
            Answer.acks, Option.isNone_some, false_imp_iff, and_true]
          refine suggestions_eq_iff.trans
            ⟨fun improvements => ?_, fun sound => sound.improvements wanted⟩
          have same := suggestions_eq_iff.mpr improvements
          rw [same] at room
          obtain ⟨o, option, improved⟩ := improves
          exact ⟨fun o option refuses => absurd refuses (wanted o option), fun _ => improvements,
            fun refuses => absurd refuses unrefused, fun _ _ => room,
            fun good => absurd improved (good o option).2⟩
      | true =>
          refine iff_of_false (fun ⟨same, _⟩ => controlPacket_ne_nil same.symm) fun sound => ?_
          have same := suggestions_eq_iff.mpr (sound.improvements wanted)
          have room := sound.suggested wanted improves
          rw [← same] at room
          exact nomatch kept.mpr room
  · have needed : inquiry.required memory l = recoded configAck memory l := by
      rw [required, Answering.required, if_neg (mt any_refused.mp unrefused),
        if_neg (mt any_improves.mp improves)]
    have unimproved (o : Nat) (option : o ∈ inquiry.options) : ¬ inquiry.Improves o :=
      fun improved => improves ⟨o, option, improved⟩
    rw [needed]
    rcases sized.answer_wanted idle with ⟨-, none⟩ | ⟨improves, -⟩
    · rw [none, packet_none]
      simp only [Answer.acks, Answer.none, Option.isNone_none, true_imp_iff, true_and]
      constructor
      · intro room
        exact ⟨fun o option refuses => absurd refuses (wanted o option),
          fun _ o option improved => absurd improved (unimproved o option),
          fun refuses => absurd refuses unrefused, fun _ improved => absurd improved improves,
          fun _ => room⟩
      · intro sound
        exact sound.acknowledged fun o option => ⟨wanted o option, unimproved o option⟩
    · obtain ⟨o, option, -, improved⟩ := handled_improves.mp improves
      exact absurd improved (unimproved o option)

/-- The answer that is collected is the one that is called for, and fits, exactly if the request
is sound. -/
theorem Sized.answered_iff (sized : inquiry.Sized) (some : 0 < l) :
    (inquiry.answer.packet memory l = inquiry.required memory l ∧
        (inquiry.answer.acks = true → inquiry.header + l ≤ maxEther)) ↔ inquiry.Sound l := by
  by_cases refuses : ∃ o ∈ inquiry.options, inquiry.Refuses o
  · exact sized.answered_refusing refuses some
  · exact sized.answered_wanted (fun o option refused => refuses ⟨o, option, refused⟩) some

end Inquiry

end L2tpns.Answering
