import Mathlib.Data.List.Induction
import Mathlib.Data.List.Nodup
import Mathlib.Logic.Function.Basic

/-! # Linked lists

A list of different elements is laid out by their successors, and an end mark stands behind the
last one. It takes a new last element with two writes (`Foundation.LinkedRing.Forward.concat`) and
loses one in its middle with one (`Foundation.LinkedRing.Forward.unlink`).

A list is laid out as a ring when the successor of the last element is the first, and the
predecessors are linked likewise. A ring can be turned (`Foundation.LinkedRing.Ring.rotate`),
takes a new last element with four writes (`Foundation.LinkedRing.Ring.insert`) and loses an
element with two (`Foundation.LinkedRing.Ring.remove`).
-/

namespace Foundation.LinkedRing

variable {α : Type*}

/-- The successors along a list, and `stop` behind its last element. -/
def Forward (next : α → α) : List α → α → Prop
  | [], _ => True
  | x :: l, stop => next x = l.headD stop ∧ Forward next l stop

/-- The predecessors along a list, and `start` before its first element. -/
def Backward (prev : α → α) : List α → α → Prop
  | [], _ => True
  | x :: l, start => prev x = start ∧ Backward prev l x

/-- The elements of a list are linked in a ring. -/
structure Ring (next prev : α → α) (l : List α) : Prop where
  forward : ∀ first ∈ l.head?, Forward next l first
  backward : ∀ last ∈ l.getLast?, Backward prev l last

variable {next next' prev prev' : α → α}

theorem headD_append (l m : List α) (stop : α) : (l ++ m).headD stop = l.headD (m.headD stop) := by
  cases l <;> rfl

theorem forward_append {l m : List α} {stop : α} :
    Forward next (l ++ m) stop ↔ Forward next l (m.headD stop) ∧ Forward next m stop := by
  induction l with
  | nil => simp [Forward]
  | cons x l ih => simp only [List.cons_append, Forward, headD_append, ih, and_assoc]

theorem backward_append {l m : List α} {start : α} :
    Backward prev (l ++ m) start ↔
      Backward prev l start ∧ Backward prev m (l.getLastD start) := by
  induction l generalizing start with
  | nil => simp [Backward]
  | cons x l ih => simp only [List.cons_append, Backward, ih, and_assoc, List.getLastD_cons]

theorem Forward.congr {l : List α} {stop : α} (along : Forward next l stop)
    (same : ∀ x ∈ l, next' x = next x) : Forward next' l stop := by
  induction l with
  | nil => trivial
  | cons x l ih =>
      exact ⟨(same x (by simp)).trans along.1, ih along.2 fun y mem => same y (by simp [mem])⟩

theorem Backward.congr {l : List α} {start : α} (along : Backward prev l start)
    (same : ∀ x ∈ l, prev' x = prev x) : Backward prev' l start := by
  induction l generalizing start with
  | nil => trivial
  | cons x l ih =>
      exact ⟨(same x (by simp)).trans along.1, ih along.2 fun y mem => same y (by simp [mem])⟩

/-- **A new last element**: it is written behind the last one. -/
theorem Forward.concat {l : List α} {stop x : α} (along : Forward next l stop)
    (distinct : l.Nodup) (off : x ∉ l) (lastNext : ∀ last ∈ l.getLast?, next' last = x)
    (newNext : next' x = stop) (kept : ∀ y ∈ l, l.getLast? ≠ some y → next' y = next y) :
    Forward next' (l ++ [x]) stop := by
  induction l using List.reverseRecOn with
  | nil => exact ⟨newNext, trivial⟩
  | append_singleton l last ih =>
      rw [List.nodup_append] at distinct
      have before : ∀ y ∈ l, next' y = next y := fun y mem =>
        kept y (by simp [mem]) fun same =>
          distinct.2.2 y mem last (by simp) (by simpa using same.symm)
      have front := (forward_append.mp along).1.congr before
      have behind : next' last = x := lastNext last (by simp)
      rw [List.append_assoc, forward_append]
      exact ⟨front, behind, newNext, trivial⟩

/-- **An element is taken out**: the one before it gets its successor. -/
theorem Forward.unlink {before after : List α} {stop x : α}
    (along : Forward next (before ++ x :: after) stop)
    (distinct : (before ++ x :: after).Nodup)
    (lastNext : ∀ last ∈ before.getLast?, next' last = next x)
    (kept : ∀ y ∈ before ++ after, before.getLast? ≠ some y → next' y = next y) :
    Forward next' (before ++ after) stop := by
  obtain ⟨front, follows, behind⟩ := forward_append.mp along
  have apart := (List.nodup_append.mp distinct).2.2
  have rest : Forward next' after stop := behind.congr fun y mem =>
    kept y (by simp [mem]) fun last =>
      apart y (List.mem_of_getLast? last) y (by simp [mem]) rfl
  rw [forward_append]
  refine ⟨?_, rest⟩
  cases before using List.reverseRecOn with
  | nil => trivial
  | append_singleton l last =>
      rw [List.append_assoc] at distinct
      have single := (List.nodup_append.mp distinct).2.2
      have kept : ∀ y ∈ l, next' y = next y := fun y mem =>
        kept y (by simp [mem]) fun same =>
          single y mem last (by simp) (by simpa using same.symm)
      rw [forward_append]
      exact ⟨(forward_append.mp front).1.congr kept,
        (lastNext last (by simp)).trans follows, trivial⟩

theorem ring_nil : Ring next prev [] := ⟨nofun, nofun⟩

theorem ring_singleton {x : α} (succ : next x = x) (pred : prev x = x) : Ring next prev [x] :=
  ⟨fun _ first => by cases first; exact ⟨succ, trivial⟩,
    fun _ last => by cases last; exact ⟨pred, trivial⟩⟩

/-- A ring by its first element and the others. -/
theorem ring_cons {x : α} {l : List α} :
    Ring next prev (x :: l) ↔
      Forward next (x :: l) x ∧ Backward prev (x :: l) (l.getLastD x) := by
  constructor
  · intro ring
    exact ⟨ring.forward x rfl, ring.backward _ (by simp [List.getLast?_cons])⟩
  · rintro ⟨forward, backward⟩
    refine ⟨fun first is => ?_, fun last is => ?_⟩
    · cases is
      exact forward
    · rw [List.getLast?_cons, ← List.getLastD_eq_getLast?] at is
      cases is
      exact backward

theorem Ring.congr {l : List α} (ring : Ring next prev l) (succ : ∀ x ∈ l, next' x = next x)
    (pred : ∀ x ∈ l, prev' x = prev x) : Ring next' prev' l :=
  ⟨fun first is => (ring.forward first is).congr succ,
    fun last is => (ring.backward last is).congr pred⟩

/-- **A ring has no beginning.** -/
theorem Ring.rotate {l m : List α} (ring : Ring next prev (l ++ m)) : Ring next prev (m ++ l) := by
  cases l with
  | nil => simpa using ring
  | cons x l =>
      cases m with
      | nil => simpa using ring
      | cons y m =>
          have last (first second : α) (l m : List α) (start : α) :
              (first :: (l ++ second :: m)).getLastD start = m.getLastD second := by
            simp [List.getLast?_cons, List.getLast?_append]
          rw [List.cons_append, ring_cons, ← List.cons_append, forward_append, backward_append,
            ← List.getLastD_cons (a := x), last, List.getLastD_cons] at ring
          obtain ⟨⟨first, second⟩, front, behind⟩ := ring
          rw [List.cons_append, ring_cons, ← List.cons_append, forward_append, backward_append,
            ← List.getLastD_cons (a := y), last, List.getLastD_cons]
          exact ⟨⟨second, first⟩, behind, front⟩

theorem ring_snoc {x : α} {l : List α} (ring : Ring next prev (x :: l)) :
    ∃ front, x :: l = front ++ [prev x] ∧ Forward next front (prev x) ∧ next (prev x) = x := by
  obtain ⟨forward, backward⟩ := ring_cons.mp ring
  have last : prev x = l.getLastD x := backward.1
  obtain ⟨front, eq⟩ : ∃ front, x :: l = front ++ [prev x] := by
    refine ⟨(x :: l).dropLast, ?_⟩
    rw [last, ← List.getLast_eq_getLastD (List.cons_ne_nil x l), List.dropLast_append_getLast]
  refine ⟨front, eq, ?_⟩
  rw [eq, forward_append] at forward
  exact ⟨forward.1, forward.2.1⟩

theorem Ring.getLast {x : α} {l : List α} (ring : Ring next prev (x :: l)) :
    (x :: l).getLast? = some (prev x) := by
  obtain ⟨front, eq, -⟩ := ring_snoc ring
  rw [eq, List.getLast?_concat]

theorem Ring.next_eq {before after : List α} {x y : α}
    (ring : Ring next prev (before ++ x :: after))
    (first : (before ++ [x]).head? = some y) : next x = after.headD y := by
  have is : (before ++ x :: after).head? = some y := by
    rw [← first]
    cases before <;> rfl
  exact (forward_append.mp (ring.forward y is)).2.1

theorem Ring.next_prev {l : List α} (ring : Ring next prev l) {x : α} (mem : x ∈ l) :
    prev x ∈ l ∧ next (prev x) = x := by
  obtain ⟨before, after, rfl⟩ := List.append_of_mem mem
  obtain ⟨front, eq, -, succ⟩ := ring_snoc (ring.rotate : Ring next prev (x :: (after ++ before)))
  refine ⟨?_, succ⟩
  have there : prev x ∈ x :: (after ++ before) := eq ▸ by simp
  simpa [or_comm, or_left_comm] using there

/-- The successor of an element is one. -/
theorem Ring.next_mem {l : List α} (ring : Ring next prev l) {x : α} (mem : x ∈ l) :
    next x ∈ l := by
  obtain ⟨before, after, rfl⟩ := List.append_of_mem mem
  have turned : Ring next prev (x :: (after ++ before)) := ring.rotate
  have succ := (ring_cons.mp turned).1.1
  cases rest : after ++ before with
  | nil =>
      rw [rest] at succ
      simp [succ]
  | cons y l =>
      rw [rest] at succ
      have there : y ∈ after ++ before := rest ▸ List.mem_cons_self
      have same : next x = y := succ
      rw [same]
      rcases List.mem_append.mp there with behind | front
      · simp [behind]
      · simp [front]

theorem Ring.next_ne {before after : List α} {x : α} (ring : Ring next prev (before ++ x :: after))
    (distinct : (before ++ x :: after).Nodup) (others : before ++ after ≠ []) : next x ≠ x := by
  have turned : Ring next prev (x :: (after ++ before)) := ring.rotate
  have differ : (x :: (after ++ before)).Nodup := List.nodup_append_comm.mp distinct
  have succ := (ring_cons.mp turned).1.1
  cases rest : after ++ before with
  | nil => exact absurd (by simpa [and_comm] using rest) others
  | cons y l =>
      rw [rest] at succ differ
      intro same
      exact (List.nodup_cons.mp differ).1 (by
        rw [← same]
        exact List.mem_cons.mpr (.inl succ))

/-- **A new last element**: it is written between the last and the first one. -/
theorem Ring.insert {x new : α} {l : List α} (ring : Ring next prev (x :: l))
    (distinct : (x :: l).Nodup) (off : new ∉ x :: l) (newNext : next' new = x)
    (lastNext : next' (prev x) = new) (keptNext : ∀ y ≠ new, y ≠ prev x → next' y = next y)
    (newPrev : prev' new = prev x) (firstPrev : prev' x = new)
    (keptPrev : ∀ y ≠ new, y ≠ x → prev' y = prev y) : Ring next' prev' (x :: l ++ [new]) := by
  obtain ⟨front, eq, forward, -⟩ := ring_snoc ring
  obtain ⟨-, backward⟩ := ring_cons.mp ring
  have outside {y : α} (mem : y ∈ x :: l) : y ≠ new := fun same => off (same ▸ mem)
  have last : l.getLastD x = prev x := backward.1.symm
  rw [List.cons_append, ring_cons, ← List.cons_append]
  constructor
  · rw [eq] at distinct outside ⊢
    have before : ∀ y ∈ front, next' y = next y := fun y mem =>
      keptNext y (outside (by simp [mem]))
        fun same => (List.nodup_append.mp distinct).2.2 y mem (prev x) (by simp) same
    rw [List.append_assoc, forward_append]
    exact ⟨forward.congr before, lastNext, newNext, trivial⟩
  · have behind : ∀ y ∈ l, prev' y = prev y := fun y mem =>
      keptPrev y (outside (by simp [mem]))
        fun same => (List.nodup_cons.mp distinct).1 (same ▸ mem)
    rw [backward_append, List.getLastD_cons, last, List.getLastD_concat]
    exact ⟨⟨firstPrev, backward.2.congr behind⟩, newPrev, trivial⟩

/-- The first element is taken out. -/
theorem Ring.remove_first {x y : α} {l : List α} (ring : Ring next prev (x :: y :: l))
    (distinct : (x :: y :: l).Nodup) (lastNext : next' (prev x) = next x)
    (keptNext : ∀ z ≠ x, z ≠ prev x → next' z = next z) (firstPrev : prev' (next x) = prev x)
    (keptPrev : ∀ z ≠ x, z ≠ next x → prev' z = prev z) : Ring next' prev' (y :: l) := by
  obtain ⟨front, eq, forward, -⟩ := ring_snoc ring
  obtain ⟨⟨second, -⟩, backward⟩ := ring_cons.mp ring
  have follows : next x = y := second
  rw [follows] at lastNext firstPrev keptPrev
  obtain ⟨own, rest⟩ := List.nodup_cons.mp distinct
  have last : l.getLastD y = prev x := by
    have whole := backward.1
    rwa [List.getLastD_cons, eq_comm] at whole
  rw [ring_cons]
  constructor
  · cases front with
    | nil => simp at eq
    | cons first front =>
        obtain ⟨rfl, tail⟩ := List.cons.inj eq
        rw [tail] at own rest ⊢
        have before : ∀ z ∈ front, next' z = next z := fun z mem =>
          keptNext z (fun same => own (same ▸ List.mem_append_left _ mem))
            fun same => (List.nodup_append.mp rest).2.2 z mem (prev x) (by simp) same
        exact forward_append.mpr ⟨forward.2.congr before, lastNext, trivial⟩
  · have behind : ∀ z ∈ l, prev' z = prev z := fun z mem =>
      keptPrev z (fun same => own (same ▸ List.mem_cons_of_mem y mem))
        fun same => (List.nodup_cons.mp rest).1 (same ▸ mem)
    exact ⟨firstPrev.trans last.symm, backward.2.2.congr behind⟩

/-- **An element is taken out**: its neighbours are linked to each other. -/
theorem Ring.remove {before after : List α} {x : α} (ring : Ring next prev (before ++ x :: after))
    (distinct : (before ++ x :: after).Nodup) (others : before ++ after ≠ [])
    (lastNext : next' (prev x) = next x) (keptNext : ∀ z ≠ x, z ≠ prev x → next' z = next z)
    (firstPrev : prev' (next x) = prev x) (keptPrev : ∀ z ≠ x, z ≠ next x → prev' z = prev z) :
    Ring next' prev' (before ++ after) := by
  have turned : Ring next prev (x :: (after ++ before)) := ring.rotate
  have differ : (x :: (after ++ before)).Nodup := List.nodup_append_comm.mp distinct
  refine Ring.rotate ?_
  cases rest : after ++ before with
  | nil => exact absurd (by simpa [and_comm] using rest) others
  | cons y l =>
      rw [rest] at turned differ
      exact turned.remove_first differ lastNext keptNext firstPrev keptPrev

end Foundation.LinkedRing
