import L2tpns.Ppp.Inquiry

/-! # Requests that are answered without interruption

The processing of a request ends without an answer when a reply has no room, and when an option
would be rejected that is insisted on. It comes to its end exactly if the answer is not lost, the
suggestions before the first rejection have room, and the first option that is rejected is not
insisted on (`L2tpns.Answering.Inquiry.Sized.completes_iff`).
-/

namespace L2tpns.Answering

open Server

/-- A reply after which the processing goes on: all fits, and an option that is insisted on is
not rejected. -/
def Goes (strict : Bool) (before next : Answer) : Prop :=
  next.lost = false ∧
    (strict = true → next = before ∨ next.response.map Reply.code ≠ some configRej)

/-- The options that are acted on do not end the processing. -/
def Inquiry.Completes (inquiry : Inquiry) (strict : Nat → Bool) : Progress → List Nat → Prop
  | _, [] => True
  | before, o :: rest =>
      let next := collect inquiry.limit inquiry.header before (inquiry.judge o)
      Goes (strict o) before.answer next.answer ∧ inquiry.Completes strict next rest

theorem goes_suggesting {strict : Bool} {before : Answer} {queued : List UInt8} {lost : Bool}
    {nakSent : Nat} :
    Goes strict before (suggesting queued lost nakSent).answer ↔ lost = false := by
  refine and_iff_left fun _ => .inr ?_
  simp [suggesting, configNak, configRej]

namespace Inquiry

variable {inquiry : Inquiry} {strict : Nat → Bool} {queued : List UInt8} {nakSent o : Nat}
  {offsets left right : List Nat} {start : Progress}

/-- The answer with the verdicts on some options carried out. -/
def carry (inquiry : Inquiry) (start : Progress) (offsets : List Nat) : Progress :=
  (offsets.map inquiry.judge).foldl (collect inquiry.limit inquiry.header) start

theorem completes_append :
    inquiry.Completes strict start (left ++ right) ↔
      inquiry.Completes strict start left ∧
        inquiry.Completes strict (inquiry.carry start left) right := by
  induction left generalizing start with
  | nil => simp [Completes, carry]
  | cons o rest ih =>
      rw [List.cons_append, Completes, Completes, ih, and_assoc]
      rfl

/-- Suggestions are made as long as there is room. -/
theorem completes_suggesting
    (wanted : ∀ o ∈ offsets, (inquiry.judge o).verdict ≠ .unacceptable)
    (fits : inquiry.header + 4 + queued.length ≤ maxEther) :
    inquiry.Completes strict (suggesting queued false nakSent) offsets ↔
      inquiry.header + 4 + queued.length +
        ((offsets.map inquiry.judge).flatMap Judged.suggestions).length ≤ maxEther := by
  induction offsets generalizing queued with
  | nil => simpa [Completes] using fits
  | cons o rest ih =>
      rw [List.forall_mem_cons] at wanted
      obtain ⟨next, nextLost, added, adds⟩ := @collect_suggesting inquiry.limit inquiry.header
        nakSent (inquiry.judge o) queued false wanted.1 (fun _ => fits)
      rw [Completes, added, goes_suggesting, List.map_cons, List.flatMap_cons, List.length_append]
      cases nextLost with
      | false =>
          have roomy := adds.1.mp rfl
          rw [ih wanted.2 (adds.fits rfl), adds.2 rfl, List.length_append]
          simp only [true_and, ← Nat.add_assoc]
      | true =>
          refine iff_of_false nofun fun room => ?_
          exact nomatch adds.1.mpr ⟨rfl, by omega⟩

/-- Options that are not refused, from the beginning. -/
theorem completes_wanted (small : inquiry.header ≤ 22)
    (carried : ∀ o ∈ offsets, (inquiry.judge o).Carried)
    (wanted : ∀ o ∈ offsets, ¬ inquiry.Refuses o) :
    inquiry.Completes strict ⟨.none, inquiry.nakSent⟩ offsets ↔
      inquiry.header + 4 +
        ((offsets.map inquiry.judge).flatMap Judged.suggestions).length ≤ maxEther := by
  have roomy : inquiry.header + 4 ≤ maxEther := by
    rw [maxEther]
    omega
  induction offsets with
  | nil => simpa [Completes] using roomy
  | cons o rest ih =>
      have agreed : ∀ i ∈ o :: rest, (inquiry.judge i).verdict ≠ .unacceptable := by
        intro i member unacceptable
        exact wanted i member ((refused_iff (carried i member) _).mpr (.inl unacceptable))
      by_cases improves : (inquiry.judge o).improves = true
      · have more : ¬ inquiry.limit ≤ inquiry.nakSent := by
          intro failed
          have refused := (refused_iff (carried o List.mem_cons_self) inquiry.exhausted).mpr
            (.inr ⟨decide_eq_true failed, improves⟩)
          exact wanted o List.mem_cons_self refused
        have begins : inquiry.Completes strict ⟨.none, inquiry.nakSent⟩ (o :: rest) ↔
            inquiry.Completes strict (suggesting [] false (inquiry.nakSent + 1)) (o :: rest) := by
          obtain ⟨next, nextLost, added, -⟩ := @collect_suggesting inquiry.limit inquiry.header
            (inquiry.nakSent + 1) (inquiry.judge o) [] false (agreed o List.mem_cons_self)
            (fun _ => roomy)
          rw [Completes, Completes, collect_begins improves more, added, goes_suggesting,
            goes_suggesting]
        exact begins.trans (@completes_suggesting inquiry strict [] _ _ agreed roomy)
      · rw [List.forall_mem_cons] at carried wanted agreed
        have acceptable : (inquiry.judge o).verdict = .acceptable :=
          carried.1.acceptable improves agreed.1
        have same : collect inquiry.limit inquiry.header ⟨.none, inquiry.nakSent⟩
            (inquiry.judge o) = ⟨.none, inquiry.nakSent⟩ := by
          rw [collect, acceptable]
        have nothing : (inquiry.judge o).suggestions = [] := by
          rw [Judged.suggestions, acceptable]
        rw [Completes, same, List.map_cons, List.flatMap_cons, nothing, List.nil_append]
        exact (and_iff_right ⟨rfl, fun _ => .inl rfl⟩).trans (ih carried.2 wanted.2)

/-- The first option that is refused begins a rejection, unless it is insisted on. -/
theorem completes_refused (small : inquiry.header ≤ 22)
    (carried : ∀ o ∈ left, (inquiry.judge o).Carried) (carriedFirst : (inquiry.judge o).Carried)
    (wanted : ∀ o ∈ left, ¬ inquiry.Refuses o) (refused : inquiry.Refuses o) :
    ∃ rejected,
      inquiry.carry ⟨.none, inquiry.nakSent⟩ (left ++ [o]) =
          rejecting (inquiry.judge o).option false rejected ∧
        (inquiry.Completes strict (inquiry.carry ⟨.none, inquiry.nakSent⟩ left) [o] ↔
          strict o = false) := by
  have carriedLeft : ∀ judged ∈ left.map inquiry.judge, judged.Carried := by
    simpa using carried
  have wantedLeft : ∀ judged ∈ left.map inquiry.judge,
      judged.refused (inquiry.limit ≤ inquiry.nakSent) = false := by
    simpa [Refuses, exhausted] using wanted
  have begun : inquiry.carry ⟨.none, inquiry.nakSent⟩ left =
      collected inquiry.limit inquiry.header inquiry.nakSent (left.map inquiry.judge) :=
    rfl
  obtain ⟨rejected, rejects, -⟩ :=
    collect_first_refused small carriedLeft carriedFirst wantedLeft refused
  refine ⟨rejected, ?_, ?_⟩
  · rw [carry, List.map_append, List.foldl_append]
    exact rejects
  rw [Completes, Completes, and_true, begun, rejects]
  have changes : (rejecting (inquiry.judge o).option false rejected).answer ≠
      (collected inquiry.limit inquiry.header inquiry.nakSent (left.map inquiry.judge)).answer := by
    intro same
    rcases foldl_wanted small carriedLeft wantedLeft with
      ⟨-, none⟩ | ⟨-, -, next, lost, suggests, -⟩
    · rw [none] at same
      cases same
    · rw [suggests] at same
      simp [rejecting, suggesting, configRej, configNak] at same
  refine ⟨fun goes => ?_, fun lenient => ⟨rfl, fun strict => ?_⟩⟩
  · by_contra strict
    rcases goes.2 (by simpa using strict) with same | other
    · exact changes same
    · exact other rfl
  · rw [lenient] at strict
    cases strict

/-- Rejections are made as long as there is room and no suggestion is overdue. -/
theorem completes_rejecting
    (known : ∀ o ∈ offsets, strict o = true → (inquiry.judge o).verdict ≠ .unacceptable)
    (fits : inquiry.header + 4 + queued.length ≤ maxEther) :
    inquiry.Completes strict (rejecting queued false nakSent) offsets ↔
      (inquiry.carry (rejecting queued false nakSent) offsets).answer.lost = false := by
  induction offsets generalizing queued with
  | nil => exact iff_of_true trivial rfl
  | cons o rest ih =>
      rw [List.forall_mem_cons] at known
      obtain ⟨next, nextLost, added, adds⟩ := @collect_rejecting inquiry.limit inquiry.header
        nakSent (inquiry.judge o) queued false (fun _ => fits)
      rw [Completes, added, carry, List.map_cons, List.foldl_cons, added, ← carry]
      cases nextLost with
      | false =>
          have goes : Goes (strict o) (rejecting queued false nakSent).answer
              (rejecting next false nakSent).answer := by
            refine ⟨rfl, fun strict => .inl ?_⟩
            have keeps : unwanted [inquiry.judge o] = [] := by
              simp [unwanted, known.1 strict]
            rw [adds.2 rfl, keeps, List.append_nil]
          exact (and_iff_right goes).trans (ih known.2 (adds.fits rfl))
      | true =>
          obtain ⟨last, lastLost, finished, further⟩ := @foldl_rejecting inquiry.limit
            inquiry.header nakSent (rest.map inquiry.judge) next true (by simp)
          refine iff_of_false (fun completes => Bool.noConfusion completes.1.1) fun kept => ?_
          rw [carry, finished] at kept
          cases (further.1.mp kept).1

/-- The suggestions before the first rejection have room, and the first option that is rejected is
not insisted on. -/
structure Uninterrupted (inquiry : Inquiry) (strict : Nat → Bool) : Prop where
  early : (∃ o ∈ inquiry.options, inquiry.acts o = true ∧ inquiry.Refuses o) →
    inquiry.header + 4 +
      ((before inquiry.exhausted inquiry.handled).flatMap Judged.suggestions).length ≤ maxEther
  lenient : ∀ o, (inquiry.options.filter inquiry.acts).find? (fun o =>
      (inquiry.judge o).refused inquiry.exhausted) = some o → strict o = false

theorem carry_append :
    inquiry.carry start (left ++ right) = inquiry.carry (inquiry.carry start left) right := by
  rw [carry, List.map_append, List.foldl_append]
  rfl

theorem before_split {exhausted : Bool} {first : Judged} {wanted rest : List Judged}
    (unrefused : ∀ judged ∈ wanted, judged.refused exhausted = false)
    (refused : first.refused exhausted = true) :
    before exhausted (wanted ++ first :: rest) = wanted := by
  have all : ∀ judged ∈ wanted, (! judged.refused exhausted) = true := by
    simpa using unrefused
  rw [before, List.takeWhile_append_of_pos all]
  simp [refused]

/-- **Completion.** The processing comes to its end exactly if the answer is not lost in the end or
before the first rejection, and that one is not insisted on. -/
theorem Sized.completes_iff (sized : inquiry.Sized)
    (known : ∀ o ∈ inquiry.options, strict o = true → (inquiry.judge o).verdict ≠ .unacceptable) :
    inquiry.Completes strict ⟨.none, inquiry.nakSent⟩ (inquiry.options.filter inquiry.acts) ↔
      inquiry.answer.lost = false ∧ inquiry.Uninterrupted strict := by
  have carried : ∀ o ∈ inquiry.options.filter inquiry.acts, (inquiry.judge o).Carried := by
    intro o filtered
    obtain ⟨option, acts⟩ := List.mem_filter.mp filtered
    exact sized.carried o option acts
  by_cases refuses : ∃ o ∈ inquiry.options, inquiry.acts o = true ∧ inquiry.Refuses o
  · obtain ⟨first, found⟩ : ∃ first, (inquiry.options.filter inquiry.acts).find? (fun o =>
        (inquiry.judge o).refused inquiry.exhausted) = some first := by
      rw [← Option.isSome_iff_exists, List.find?_isSome]
      obtain ⟨o, option, acts, refused⟩ := refuses
      exact ⟨o, List.mem_filter.mpr ⟨option, acts⟩, refused⟩
    obtain ⟨refused, left, right, split, spared⟩ := List.find?_eq_some_iff_append.mp found
    have options : ∀ o ∈ right, o ∈ inquiry.options := by
      intro o member
      have acted : o ∈ inquiry.options.filter inquiry.acts := by simp [split, member]
      exact (List.mem_filter.mp acted).1
    rw [split] at carried
    simp only [List.forall_mem_append, List.forall_mem_cons] at carried
    obtain ⟨carriedLeft, carriedFirst, -⟩ := carried
    have wanted : ∀ o ∈ left, ¬ inquiry.Refuses o := by
      intro o member refuses
      have spares := spared o member
      rw [refuses] at spares
      exact nomatch spares
    obtain ⟨rejected, begun, insists⟩ := @completes_refused inquiry strict first left sized.header
      carriedLeft carriedFirst wanted refused
    have shortened : before inquiry.exhausted inquiry.handled = left.map inquiry.judge := by
      rw [handled, split, List.map_append, List.map_cons, before_split _ refused]
      simpa [Refuses] using wanted
    have parts : inquiry.options.filter inquiry.acts = (left ++ [first]) ++ right := by
      simp [split]
    have answer : inquiry.answer =
        (inquiry.carry (rejecting (inquiry.judge first).option false rejected) right).answer := by
      rw [← begun, ← carry_append, ← parts]
      rfl
    have uninterrupted : inquiry.Uninterrupted strict ↔
        inquiry.header + 4 + ((left.map inquiry.judge).flatMap Judged.suggestions).length ≤
          maxEther ∧ strict first = false := by
      rw [← shortened]
      constructor
      · exact fun lenient => ⟨lenient.early refuses, lenient.lenient first found⟩
      · rintro ⟨early, lenient⟩
        refine ⟨fun _ => early, fun o other => ?_⟩
        rw [found] at other
        rw [← Option.some.inj other, lenient]
    have room : inquiry.header + 4 + (inquiry.judge first).option.length ≤ maxEther := by
      have small := sized.header
      have short := carriedFirst.short
      rw [maxEther]
      omega
    rw [parts, completes_append, completes_append, begun, insists, answer, uninterrupted,
      completes_wanted sized.header carriedLeft wanted,
      completes_rejecting (fun o member => known o (options o member)) room]
    exact and_comm
  · have wanted : ∀ o ∈ inquiry.options.filter inquiry.acts, ¬ inquiry.Refuses o := by
      intro o filtered refused
      obtain ⟨option, acts⟩ := List.mem_filter.mp filtered
      exact refuses ⟨o, option, acts, refused⟩
    have uninterrupted : inquiry.Uninterrupted strict := by
      refine ⟨fun refused => absurd refused refuses, fun o found => ?_⟩
      have refused : inquiry.Refuses o := by simpa [Refuses] using List.find?_some found
      exact absurd refused (wanted o (List.mem_of_find?_eq_some found))
    rw [completes_wanted sized.header carried wanted, and_iff_left uninterrupted]
    have idle : inquiry.handled.any (Judged.refused inquiry.exhausted) = false := by
      rw [← Bool.not_eq_true, handled_refused]
      exact refuses
    rcases sized.answer_wanted idle with ⟨unimproved, none⟩ | ⟨-, next, lost, suggests, kept, -⟩
    · have nothing : inquiry.handled.flatMap Judged.suggestions = [] := by
        rw [List.flatMap_eq_nil_iff]
        intro judged member
        exact suggestions_eq_nil.mpr (List.any_eq_false.mp unimproved judged member)
      rw [← handled, nothing, none]
      refine iff_of_true ?_ rfl
      have small := sized.header
      rw [maxEther, List.length_nil]
      omega
    · rw [suggests]
      exact kept.symm

end Inquiry

end L2tpns.Answering
