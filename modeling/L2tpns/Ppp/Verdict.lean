import L2tpns.Ppp.Packets
import Mathlib.Data.List.TakeWhile

/-! # The answer to a configuration request

What a request calls for follows from a verdict on each of its options: a rejection of those that
are refused, else suggestions for those that can be improved, else an acknowledgement. The source
collects the answer option by option, and this is the answer called for as long as there is room
and no suggestion is due when a rejection was begun and the suggestions are used up
(`L2tpns.Answering.collected_rejection`, `L2tpns.Answering.collected_suggestion`).
-/

namespace L2tpns.Answering

open Server

/-- An option is good, other values are suggested for it, or it is not wanted at all. -/
inductive Verdict where
  | acceptable
  | improvable (values : List (List UInt8))
  | unacceptable
deriving DecidableEq, Repr

/-- An option as it was received, with the verdict on it. -/
structure Judged where
  option : List UInt8
  verdict : Verdict
deriving DecidableEq, Repr

namespace Judged

/-- The option with another value. -/
def suggest (judged : Judged) (value : List UInt8) : List UInt8 :=
  judged.option.take 1 ++ [UInt8.ofNat (value.length + 2)] ++ value

def suggestions (judged : Judged) : List UInt8 :=
  match judged.verdict with
  | .improvable values => values.flatMap judged.suggest
  | _ => []

/-- There is a suggestion. -/
def improves (judged : Judged) : Bool :=
  match judged.verdict with
  | .improvable values => ! values.isEmpty
  | _ => false

/-- There is no alternative: the option is not wanted, or nothing is suggested any more. -/
def refused (exhausted : Bool) (judged : Judged) : Bool :=
  match judged.verdict with
  | .acceptable => false
  | .improvable values => exhausted || values.isEmpty
  | .unacceptable => true

end Judged

/-- The options that are rejected, as they were received. -/
def rejections (exhausted : Bool) (options : List Judged) : List UInt8 :=
  (options.filter (Judged.refused exhausted)).flatMap Judged.option

/-- The answer to a request: the options without an alternative, else better values, else the
acknowledgement `ack`. -/
def required (exhausted : Bool) (ident : Nat) (ack : List UInt8) (options : List Judged) :
    List UInt8 :=
  if options.any (Judged.refused exhausted) then
    controlPacket configRej ident (rejections exhausted options)
  else if options.any Judged.improves then
    controlPacket configNak ident (options.flatMap Judged.suggestions)
  else ack

/-- An answer as far as it was collected, and how many suggestions were begun. -/
structure Progress where
  answer : Answer
  nakSent : Nat
deriving DecidableEq, Repr

/-- Suggestions are being collected, and none was lost. -/
def Progress.naks (progress : Progress) : Bool :=
  ! progress.answer.lost && (progress.answer.response.map Reply.code == some configNak)

section Collecting

variable (limit header : Nat)

/-- `ppp_conf_nak` without the rest of the state. -/
def confNak (progress : Progress) (judged : Judged) (value : List UInt8) : Progress :=
  let failed := limit ≤ progress.nakSent
  match progress.answer.response with
  | some reply =>
      if reply.code = configNak then
        if progress.answer.lost then progress
        else { progress with answer := reply.queue header (judged.suggest value) }
      else if failed then
        { progress with answer := pppConfRej header ⟨some reply, true⟩ judged.option }
      else progress
  | none =>
      if failed then
        { progress with answer := pppConfRej header progress.answer judged.option }
      else
        ⟨Reply.queue ⟨configNak, []⟩ header (judged.suggest value), progress.nakSent + 1⟩

/-- The verdict on an option is carried out. Another value is suggested after the first one was
queued. -/
def collect (progress : Progress) (judged : Judged) : Progress :=
  match judged.verdict with
  | .acceptable => progress
  | .improvable values =>
      match values with
      | [] => progress
      | first :: rest =>
          rest.foldl
            (fun progress value =>
              if progress.naks then confNak limit header progress judged value else progress)
            (confNak limit header progress judged first)
  | .unacceptable => { progress with answer := pppConfRej header progress.answer judged.option }

/-- The answer that is collected for a request. -/
def collected (nakSent : Nat) (options : List Judged) : Progress :=
  options.foldl (collect limit header) ⟨.none, nakSent⟩

end Collecting

/-- The options up to the first one that is refused. -/
def before (exhausted : Bool) (options : List Judged) : List Judged :=
  options.takeWhile fun judged => ! judged.refused exhausted

/-- The options behind the first one that is refused. -/
def behind (exhausted : Bool) (options : List Judged) : List Judged :=
  (options.dropWhile fun judged => ! judged.refused exhausted).tail

/-- No suggestion is begun after the ones before the first rejection. -/
def Spent (limit nakSent : Nat) (options : List Judged) : Prop :=
  limit ≤ nakSent ∨
    limit = nakSent + 1 ∧ (before (limit ≤ nakSent) options).any Judged.improves

/-- A suggestion is due behind a rejection when no more are made. -/
def Overdue (limit nakSent : Nat) (options : List Judged) : Prop :=
  Spent limit nakSent options ∧ (behind (limit ≤ nakSent) options).any Judged.improves

variable {limit header nakSent : Nat} {judged : Judged} {options : List Judged}
  {queued : List UInt8} {lost : Bool}

/-- The answer when suggestions are collected. -/
def suggesting (queued : List UInt8) (lost : Bool) (nakSent : Nat) : Progress :=
  ⟨⟨some ⟨configNak, queued⟩, lost⟩, nakSent⟩

/-- The answer when a rejection is collected. -/
def rejecting (queued : List UInt8) (lost : Bool) (nakSent : Nat) : Progress :=
  ⟨⟨some ⟨configRej, queued⟩, lost⟩, nakSent⟩

/-- `next` is `queued` with `more`, or the end of the reply is lost because it does not fit. -/
def Adds (header : Nat) (queued more : List UInt8) (lost : Bool) (next : List UInt8)
    (nextLost : Bool) : Prop :=
  (nextLost = false ↔ lost = false ∧ header + 4 + queued.length + more.length ≤ maxEther) ∧
    (nextLost = false → next = queued ++ more)

theorem Adds.nil (fits : lost = false → header + 4 + queued.length ≤ maxEther) :
    Adds header queued [] lost queued lost := by
  refine ⟨?_, fun _ => (List.append_nil _).symm⟩
  simpa using fits

theorem Adds.overflown {more : List UInt8} : Adds header queued more true queued true := by
  simp [Adds]

/-- The second end may be lost for another reason. -/
theorem Adds.trans_or {first second next last : List UInt8} {nextLost lastLost stops : Bool}
    (left : Adds header queued first lost next nextLost)
    (right : Adds header next second (nextLost || stops) last lastLost) :
    Adds header queued (first ++ second) (lost || stops) last lastLost := by
  obtain ⟨leftLost, leftQueued⟩ := left
  obtain ⟨rightLost, rightQueued⟩ := right
  simp only [Bool.or_eq_false_iff] at rightLost
  rw [Adds, List.length_append, Bool.or_eq_false_iff]
  cases nextLost with
  | false =>
      have added := leftQueued rfl
      have fits := leftLost.mp rfl
      rw [added, List.length_append] at rightLost
      refine ⟨?_, fun kept => ?_⟩
      · rw [rightLost]
        constructor
        · rintro ⟨⟨_, goesOn⟩, room⟩
          exact ⟨⟨fits.1, goesOn⟩, by omega⟩
        · rintro ⟨⟨_, goesOn⟩, room⟩
          exact ⟨⟨rfl, goesOn⟩, by omega⟩
      · rw [rightQueued kept, added, List.append_assoc]
  | true =>
      have overflows : lastLost = true := by
        by_contra kept
        exact nomatch (rightLost.mp (by simpa using kept)).1.1
      subst overflows
      refine ⟨iff_of_false nofun fun ⟨kept, fits⟩ => ?_, nofun⟩
      exact nomatch leftLost.mpr ⟨kept.1, by omega⟩

theorem Adds.trans {first second next last : List UInt8} {nextLost lastLost : Bool}
    (left : Adds header queued first lost next nextLost)
    (right : Adds header next second nextLost last lastLost) :
    Adds header queued (first ++ second) lost last lastLost := by
  rw [← Bool.or_false nextLost] at right
  rw [← Bool.or_false lost]
  exact left.trans_or right

theorem queue_adds (code : UInt8) (queued option : List UInt8) (header : Nat) :
    ∃ next nextLost, Reply.queue ⟨code, queued⟩ header option = ⟨some ⟨code, next⟩, nextLost⟩ ∧
      Adds header queued option false next nextLost := by
  rw [Reply.queue]
  split
  case isTrue overflows => exact ⟨_, _, rfl, by simpa [Adds] using overflows, nofun⟩
  case isFalse fits =>
      exact ⟨_, _, rfl, by simpa [Adds] using fits, fun _ => rfl⟩

theorem confNak_suggesting (value : List UInt8) :
    ∃ next nextLost,
      confNak limit header (suggesting queued lost nakSent) judged value =
          suggesting next nextLost nakSent ∧
        Adds header queued (judged.suggest value) lost next nextLost := by
  cases lost with
  | false =>
      obtain ⟨next, nextLost, added, adds⟩ :=
        queue_adds configNak queued (judged.suggest value) header
      refine ⟨next, nextLost, ?_, adds⟩
      simp [confNak, suggesting, added]
  | true => exact ⟨queued, true, by simp [confNak, suggesting], .overflown⟩

theorem Adds.fits {more next : List UInt8} {nextLost : Bool}
    (adds : Adds header queued more lost next nextLost) (kept : nextLost = false) :
    header + 4 + next.length ≤ maxEther := by
  have fits := (adds.1.mp kept).2
  rw [adds.2 kept, List.length_append]
  omega

theorem suggestAll_suggesting (values : List (List UInt8))
    (fits : lost = false → header + 4 + queued.length ≤ maxEther) :
    ∃ next nextLost,
      values.foldl
          (fun progress value =>
            if progress.naks then confNak limit header progress judged value else progress)
          (suggesting queued lost nakSent) =
          suggesting next nextLost nakSent ∧
        Adds header queued (values.flatMap judged.suggest) lost next nextLost := by
  induction values generalizing queued lost with
  | nil => exact ⟨queued, lost, rfl, .nil fits⟩
  | cons value rest ih =>
      obtain ⟨next, nextLost, added, adds⟩ :
          ∃ next nextLost,
            (if (suggesting queued lost nakSent).naks then
                confNak limit header (suggesting queued lost nakSent) judged value
              else suggesting queued lost nakSent) = suggesting next nextLost nakSent ∧
              Adds header queued (judged.suggest value) lost next nextLost := by
        cases lost with
        | false => simpa [Progress.naks, suggesting] using confNak_suggesting value
        | true => exact ⟨queued, true, by simp [Progress.naks, suggesting], .overflown⟩
      obtain ⟨last, lastLost, finished, further⟩ := ih adds.fits
      rw [List.foldl_cons, added, List.flatMap_cons]
      exact ⟨last, lastLost, finished, adds.trans further⟩

/-- The option is judged as it may be: it is short, and improved with a value. -/
structure Judged.Carried (judged : Judged) : Prop where
  short : judged.option.length ≤ 255
  improved : judged.verdict ≠ .improvable []

theorem collect_suggesting (wanted : judged.verdict ≠ .unacceptable)
    (fits : lost = false → header + 4 + queued.length ≤ maxEther) :
    ∃ next nextLost,
      collect limit header (suggesting queued lost nakSent) judged =
          suggesting next nextLost nakSent ∧
        Adds header queued judged.suggestions lost next nextLost := by
  obtain ⟨option, verdict⟩ := judged
  cases verdict with
  | acceptable => exact ⟨queued, lost, rfl, .nil fits⟩
  | improvable values =>
      cases values with
      | nil => exact ⟨queued, lost, rfl, .nil fits⟩
      | cons first rest =>
          obtain ⟨next, nextLost, added, adds⟩ := @confNak_suggesting limit header nakSent
            ⟨option, .improvable (first :: rest)⟩ queued lost first
          obtain ⟨last, lastLost, finished, further⟩ := @suggestAll_suggesting limit header nakSent
            ⟨option, .improvable (first :: rest)⟩ next nextLost rest adds.fits
          refine ⟨last, lastLost, ?_, adds.trans further⟩
          rw [← added] at finished
          exact finished
  | unacceptable => exact absurd rfl wanted

theorem foldl_suggesting (wanted : ∀ judged ∈ options, judged.verdict ≠ .unacceptable)
    (fits : lost = false → header + 4 + queued.length ≤ maxEther) :
    ∃ next nextLost,
      options.foldl (collect limit header) (suggesting queued lost nakSent) =
          suggesting next nextLost nakSent ∧
        Adds header queued (options.flatMap Judged.suggestions) lost next nextLost := by
  induction options generalizing queued lost with
  | nil => exact ⟨queued, lost, rfl, .nil fits⟩
  | cons judged rest ih =>
      simp only [List.forall_mem_cons] at wanted
      obtain ⟨next, nextLost, added, adds⟩ := collect_suggesting wanted.1 fits
      obtain ⟨last, lastLost, finished, further⟩ := ih wanted.2 adds.fits
      rw [List.foldl_cons, added, List.flatMap_cons]
      exact ⟨last, lastLost, finished, adds.trans further⟩

/-- The options that are not wanted. -/
def unwanted (options : List Judged) : List UInt8 :=
  (options.filter fun judged => judged.verdict = .unacceptable).flatMap Judged.option

theorem suggestAll_rejecting (values : List (List UInt8)) :
    values.foldl
        (fun progress value =>
          if progress.naks then confNak limit header progress judged value else progress)
        (rejecting queued lost nakSent) = rejecting queued lost nakSent := by
  have refuses : (rejecting queued lost nakSent).naks = false := by
    simp [Progress.naks, rejecting, configRej, configNak]
  induction values with
  | nil => rfl
  | cons value rest ih =>
      rw [List.foldl_cons, refuses]
      exact ih

theorem confNak_rejecting (value : List UInt8) :
    confNak limit header (rejecting queued lost nakSent) judged value =
      rejecting queued (if limit ≤ nakSent then true else lost) nakSent := by
  have other : configRej ≠ configNak := by decide
  by_cases failed : limit ≤ nakSent
  · simp [confNak, rejecting, other, failed, pppConfRej]
  · simp [confNak, rejecting, other, failed]

theorem confRej_rejecting (option : List UInt8) :
    ∃ next nextLost,
      pppConfRej header (rejecting queued lost nakSent).answer option =
          ⟨some ⟨configRej, next⟩, nextLost⟩ ∧
        Adds header queued option lost next nextLost := by
  cases lost with
  | false =>
      obtain ⟨next, nextLost, added, adds⟩ := queue_adds configRej queued option header
      exact ⟨next, nextLost, by simpa [pppConfRej, rejecting] using added, adds⟩
  | true => exact ⟨queued, true, by simp [pppConfRej, rejecting], .overflown⟩

theorem collect_rejecting (fits : lost = false → header + 4 + queued.length ≤ maxEther) :
    ∃ next nextLost,
      collect limit header (rejecting queued lost nakSent) judged =
          rejecting next nextLost nakSent ∧
        Adds header queued (unwanted [judged])
          (lost || (decide (limit ≤ nakSent) && judged.improves)) next nextLost := by
  obtain ⟨option, verdict⟩ := judged
  cases verdict with
  | acceptable =>
      exact ⟨queued, lost, rfl, by simpa [Judged.improves, unwanted] using Adds.nil fits⟩
  | improvable values =>
      cases values with
      | nil => exact ⟨queued, lost, rfl, by simpa [Judged.improves, unwanted] using Adds.nil fits⟩
      | cons first rest =>
          refine ⟨queued, if limit ≤ nakSent then true else lost, ?_, ?_⟩
          · simp only [collect, confNak_rejecting, suggestAll_rejecting]
          · by_cases failed : limit ≤ nakSent
            · simpa [failed, Judged.improves] using Adds.overflown
            · simpa [failed, Judged.improves, unwanted] using Adds.nil fits
  | unacceptable =>
      obtain ⟨next, nextLost, added, adds⟩ :=
        @confRej_rejecting header nakSent queued lost option
      refine ⟨next, nextLost, ?_, by simpa [Judged.improves, unwanted] using adds⟩
      simp only [collect, added]
      rfl

theorem foldl_rejecting (fits : lost = false → header + 4 + queued.length ≤ maxEther) :
    ∃ next nextLost,
      options.foldl (collect limit header) (rejecting queued lost nakSent) =
          rejecting next nextLost nakSent ∧
        Adds header queued (unwanted options)
          (lost || (decide (limit ≤ nakSent) && options.any Judged.improves)) next nextLost := by
  induction options generalizing queued lost with
  | nil => exact ⟨queued, lost, rfl, by simpa [unwanted] using Adds.nil fits⟩
  | cons judged rest ih =>
      obtain ⟨next, nextLost, added, adds⟩ :=
        @collect_rejecting limit header nakSent judged queued lost fits
      obtain ⟨last, lastLost, finished, further⟩ := ih adds.fits
      refine ⟨last, lastLost, by rw [List.foldl_cons, added, finished], ?_⟩
      have all : unwanted (judged :: rest) = unwanted [judged] ++ unwanted rest := by
        simp [unwanted, List.filter_cons]
        split <;> simp
      rw [all, List.any_cons, Bool.and_or_distrib_left, ← Bool.or_assoc]
      exact adds.trans_or further

theorem refused_iff (carried : judged.Carried) (exhausted : Bool) :
    judged.refused exhausted = true ↔
      judged.verdict = .unacceptable ∨ exhausted = true ∧ judged.improves = true := by
  have improved := carried.improved
  rcases verdict : judged.verdict with _ | values | _
  · simp [Judged.refused, Judged.improves, verdict]
  · rw [verdict] at improved
    have some : values ≠ [] := fun none => improved (congrArg Verdict.improvable none)
    simp [Judged.refused, Judged.improves, verdict, some]
  · simp [Judged.refused, verdict]

theorem Judged.Carried.acceptable (carried : judged.Carried) (unimproved : ¬ judged.improves = true)
    (wanted : judged.verdict ≠ .unacceptable) : judged.verdict = .acceptable := by
  have improved := carried.improved
  rcases verdict : judged.verdict with _ | values | _
  · rfl
  · rw [verdict] at improved
    have some : values ≠ [] := fun none => improved (congrArg Verdict.improvable none)
    simp [Judged.improves, verdict, some] at unimproved
  · exact absurd verdict wanted

theorem rejections_eq_unwanted {exhausted : Bool} (carried : ∀ judged ∈ options, judged.Carried)
    (idle : exhausted = true → options.any Judged.improves = false) :
    rejections exhausted options = unwanted options := by
  rw [rejections, unwanted, List.filter_congr]
  intro judged member
  rw [Bool.eq_iff_iff, refused_iff (carried judged member), decide_eq_true_eq, or_iff_left]
  rintro ⟨spent, improves⟩
  exact List.any_eq_false.mp (idle spent) judged member improves

theorem collect_begins (improves : judged.improves = true) (more : ¬ limit ≤ nakSent) :
    collect limit header ⟨.none, nakSent⟩ judged =
      collect limit header (suggesting [] false (nakSent + 1)) judged := by
  obtain ⟨option, _ | values | _⟩ := judged
  · exact nomatch improves
  · cases values with
    | nil => exact nomatch improves
    | cons first rest => simp [collect, confNak, suggesting, Answer.none, more]
  · exact nomatch improves

/-- Options that are not refused, from the beginning. -/
theorem foldl_wanted (small : header ≤ 22) (carried : ∀ judged ∈ options, judged.Carried)
    (wanted : ∀ judged ∈ options, judged.refused (limit ≤ nakSent) = false) :
    (options.any Judged.improves = false ∧
        collected limit header nakSent options = ⟨.none, nakSent⟩) ∨
      options.any Judged.improves = true ∧ ¬ limit ≤ nakSent ∧ ∃ next nextLost,
        collected limit header nakSent options = suggesting next nextLost (nakSent + 1) ∧
          Adds header [] (options.flatMap Judged.suggestions) false next nextLost := by
  induction options with
  | nil => exact .inl ⟨rfl, rfl⟩
  | cons judged rest ih =>
      have agreed : ∀ other ∈ judged :: rest, other.verdict ≠ .unacceptable := by
        intro other member unacceptable
        have good := wanted other member
        simp [Judged.refused, unacceptable] at good
      rw [List.forall_mem_cons] at carried wanted agreed
      have roomy : false = false → header + 4 + ([] : List UInt8).length ≤ maxEther := by
        intro _
        rw [maxEther, List.length_nil]
        omega
      by_cases improves : judged.improves = true
      · have more : ¬ limit ≤ nakSent := by
          intro failed
          have refused := (refused_iff carried.1 (limit ≤ nakSent)).mpr
            (.inr ⟨decide_eq_true failed, improves⟩)
          exact Bool.eq_false_iff.mp wanted.1 refused
        obtain ⟨next, nextLost, added, adds⟩ := @collect_suggesting limit header (nakSent + 1)
          judged [] false agreed.1 roomy
        obtain ⟨last, lastLost, finished, further⟩ := @foldl_suggesting limit header (nakSent + 1)
          rest next nextLost agreed.2 adds.fits
        refine .inr ⟨by simp [improves], more, last, lastLost, ?_, adds.trans further⟩
        rw [collected, List.foldl_cons, collect_begins improves more, added, finished]
      · have acceptable : judged.verdict = .acceptable := carried.1.acceptable improves agreed.1
        have same : collected limit header nakSent (judged :: rest) =
            collected limit header nakSent rest := by
          simp [collected, collect, acceptable]
        have none : judged.suggestions = [] := by simp [Judged.suggestions, acceptable]
        simpa [same, none, improves] using ih carried.2 wanted.2

theorem queue_first (small : header ≤ 22) {option : List UInt8} (short : option.length ≤ 255) :
    Reply.queue ⟨configRej, []⟩ header option = ⟨some ⟨configRej, option⟩, false⟩ := by
  rw [Reply.queue, if_neg, List.nil_append]
  rw [maxEther, List.length_nil]
  omega

theorem collect_rejects (small : header ≤ 22) (carried : judged.Carried)
    (refused : judged.refused (limit ≤ nakSent) = true) :
    collect limit header ⟨.none, nakSent⟩ judged = rejecting judged.option false nakSent := by
  rcases (refused_iff carried _).mp refused with unacceptable | ⟨failed, improves⟩
  · simp only [collect, unacceptable, pppConfRej, Answer.none, queue_first small carried.short]
    rfl
  · obtain ⟨option, _ | values | _⟩ := judged
    · exact nomatch improves
    · cases values with
      | nil => exact nomatch improves
      | cons first rest =>
          have begun : confNak limit header ⟨.none, nakSent⟩
              ⟨option, .improvable (first :: rest)⟩ first = rejecting option false nakSent := by
            have fits := queue_first small carried.short
            simp_all [confNak, Answer.none, pppConfRej, rejecting]
          simp only [collect, begun, suggestAll_rejecting]
    · exact nomatch improves

theorem collect_replaces (small : header ≤ 22) (carried : judged.Carried)
    (unacceptable : judged.verdict = .unacceptable) :
    collect limit header (suggesting queued lost nakSent) judged =
      rejecting judged.option false nakSent := by
  have other : configNak ≠ configRej := by decide
  simp only [collect, unacceptable, suggesting, pppConfRej, other, ↓reduceIte,
    queue_first small carried.short]
  rfl

/-- The first option that is refused, with what is before and behind it. -/
theorem before_append_behind {exhausted : Bool}
    (refuses : options.any (Judged.refused exhausted) = true) :
    ∃ judged, judged.refused exhausted = true ∧
      options = before exhausted options ++ judged :: behind exhausted options := by
  induction options with
  | nil => exact nomatch refuses
  | cons judged rest ih =>
      by_cases refused : judged.refused exhausted = true
      · exact ⟨judged, refused, by simp [before, behind, refused]⟩
      · obtain ⟨first, firstRefused, split⟩ := ih (by simpa [refused] using refuses)
        refine ⟨first, firstRefused, ?_⟩
        simp only [before, behind, refused, Bool.not_false, List.takeWhile_cons,
          List.dropWhile_cons, ↓reduceIte, List.cons_append, List.cons.injEq, true_and]
        exact split

theorem before_wanted {exhausted : Bool} :
    ∀ judged ∈ before exhausted options, judged.refused exhausted = false := by
  intro judged member
  simpa using List.mem_takeWhile_imp member

theorem rejections_split {exhausted : Bool} {first : Judged} {left right : List Judged}
    (wanted : ∀ judged ∈ left, judged.refused exhausted = false)
    (refused : first.refused exhausted = true) :
    rejections exhausted (left ++ first :: right) =
      first.option ++ rejections exhausted right := by
  have none : left.filter (Judged.refused exhausted) = [] := by
    simpa [List.filter_eq_nil_iff] using wanted
  simp [rejections, List.filter_append, none, refused]

/-- The answer when the first refused option was reached, and how many suggestions were begun. -/
theorem collect_first_refused (small : header ≤ 22) {first : Judged} {left : List Judged}
    (carriedLeft : ∀ judged ∈ left, judged.Carried) (carried : first.Carried)
    (wanted : ∀ judged ∈ left, judged.refused (limit ≤ nakSent) = false)
    (refused : first.refused (limit ≤ nakSent) = true) :
    ∃ rejected,
      collect limit header (collected limit header nakSent left) first =
          rejecting first.option false rejected ∧
        (limit ≤ rejected ↔ limit ≤ nakSent ∨ limit = nakSent + 1 ∧ left.any Judged.improves) := by
  rcases foldl_wanted small carriedLeft wanted with
    ⟨idle, none⟩ | ⟨improves, more, queued, lost, suggested, -⟩
  · rw [none]
    exact ⟨nakSent, collect_rejects small carried refused, by simp [idle]⟩
  · have unacceptable : first.verdict = .unacceptable := by
      rcases (refused_iff carried _).mp refused with unacceptable | ⟨failed, -⟩
      · exact unacceptable
      · exact absurd (of_decide_eq_true failed) more
    rw [suggested]
    refine ⟨nakSent + 1, collect_replaces small carried unacceptable, ?_⟩
    simp only [improves, and_true]
    omega

/-- **Rejections.** The answer rejects what is refused if there is room, and no suggestion is
overdue. -/
theorem collected_rejection (small : header ≤ 22) (carried : ∀ judged ∈ options, judged.Carried)
    (refuses : options.any (Judged.refused (limit ≤ nakSent)) = true) :
    ∃ next nextLost rejected,
      collected limit header nakSent options = rejecting next nextLost rejected ∧
        (nextLost = false ↔
          header + 4 + (rejections (limit ≤ nakSent) options).length ≤ maxEther ∧
            ¬ Overdue limit nakSent options) ∧
        (nextLost = false → next = rejections (limit ≤ nakSent) options) := by
  obtain ⟨first, refused, split⟩ := before_append_behind refuses
  have wanted := @before_wanted options (limit ≤ nakSent)
  rw [split] at carried
  simp only [List.forall_mem_append, List.forall_mem_cons] at carried
  obtain ⟨carriedLeft, carriedFirst, carriedRight⟩ := carried
  obtain ⟨rejected, begun, spent⟩ :=
    collect_first_refused small carriedLeft carriedFirst wanted refused
  obtain ⟨next, nextLost, finished, adds⟩ := @foldl_rejecting limit header rejected
    (behind (limit ≤ nakSent) options) first.option false (by
      intro _
      have short := carriedFirst.short
      rw [maxEther]
      omega)
  have whole : collected limit header nakSent options = rejecting next nextLost rejected := by
    rw [split, collected, List.foldl_append, List.foldl_cons, ← collected, begun, finished]
  have overdue : (false || (decide (limit ≤ rejected) &&
      (behind (limit ≤ nakSent) options).any Judged.improves)) = true ↔
      Overdue limit nakSent options := by
    simp only [Bool.false_or, Bool.and_eq_true, decide_eq_true_eq, spent, Overdue, Spent]
  refine ⟨next, nextLost, rejected, whole, ?_⟩
  by_cases late : Overdue limit nakSent options
  · rw [overdue.mpr late] at adds
    have lost : nextLost = true := by
      by_contra kept
      exact nomatch (adds.1.mp (by simpa using kept)).1
    simp [lost, late]
  · have timely : (false || (decide (limit ≤ rejected) &&
        (behind (limit ≤ nakSent) options).any Judged.improves)) = false := by
      rw [← Bool.not_eq_true, overdue]
      exact late
    have all : rejections (limit ≤ nakSent) options =
        first.option ++ unwanted (behind (limit ≤ nakSent) options) := by
      conv_lhs => rw [split]
      rw [rejections_split wanted refused, rejections_eq_unwanted carriedRight]
      intro failed
      by_contra improves
      exact late ⟨.inl (of_decide_eq_true failed), by simpa using improves⟩
    rw [timely] at adds
    rw [all, List.length_append]
    refine ⟨?_, adds.2⟩
    rw [adds.1]
    simp only [late, not_false_eq_true, and_true, true_and]
    omega

/-- **Suggestions.** When nothing is refused the answer has all suggestions if there is room. -/
theorem collected_suggestion (small : header ≤ 22) (carried : ∀ judged ∈ options, judged.Carried)
    (wanted : options.any (Judged.refused (limit ≤ nakSent)) = false)
    (improves : options.any Judged.improves = true) :
    ∃ next nextLost,
      collected limit header nakSent options = suggesting next nextLost (nakSent + 1) ∧
        (nextLost = false ↔
          header + 4 + (options.flatMap Judged.suggestions).length ≤ maxEther) ∧
        (nextLost = false → next = options.flatMap Judged.suggestions) := by
  have each (judged : Judged) (member : judged ∈ options) :
      judged.refused (limit ≤ nakSent) = false :=
    Bool.eq_false_iff.mpr (List.any_eq_false.mp wanted judged member)
  rcases foldl_wanted small carried each with ⟨idle, -⟩ | ⟨-, -, next, nextLost, added, adds⟩
  · rw [improves] at idle
    exact nomatch idle
  · exact ⟨next, nextLost, added, by simpa [Adds] using adds⟩

theorem collected_none (small : header ≤ 22) (carried : ∀ judged ∈ options, judged.Carried)
    (wanted : options.any (Judged.refused (limit ≤ nakSent)) = false)
    (good : options.any Judged.improves = false) :
    collected limit header nakSent options = ⟨.none, nakSent⟩ := by
  have each (judged : Judged) (member : judged ∈ options) :
      judged.refused (limit ≤ nakSent) = false :=
    Bool.eq_false_iff.mpr (List.any_eq_false.mp wanted judged member)
  rcases foldl_wanted small carried each with ⟨-, none⟩ | ⟨improves, -⟩
  · exact none
  · rw [good] at improves
    exact nomatch improves

end L2tpns.Answering
