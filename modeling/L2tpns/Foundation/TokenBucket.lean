import Mathlib.Algebra.BigOperators.Group.List.Basic
import Mathlib.Tactic.Linarith
import Mathlib.Tactic.Ring

/-! # Token buckets

A bucket earns credit over time, at most `rate` for each `unit` of it, and pays for what leaves it;
its credit is never more than `burst`. What leaves it within a span of time is at most what the
span earns and one burst (`Foundation.TokenBucket.Run.bound`).
-/

namespace Foundation.TokenBucket

/-- The credit of a bucket and the time it was earned for. -/
structure Meter where
  credit : Int
  last : Nat

/-- The constants of a bucket. -/
structure Terms where
  burst : Int
  rate : Nat
  unit : Nat

variable (terms : Terms)

/-- At some time a bucket earns what is due at most and pays for what leaves it. -/
structure Pays (before : Meter) (now : Nat) (out : Int) (after : Meter) : Prop where
  order : before.last ≤ now
  last : after.last = now
  solvent : 0 ≤ after.credit
  burst : after.credit + out ≤ terms.burst
  earned : terms.unit * (after.credit + out) ≤
    terms.unit * before.credit + terms.rate * (now - before.last : Nat)

/-- A run, with the times and amounts of what leaves. At some times the bucket is left alone. -/
inductive Run : Meter → List (Nat × Int) → Meter → Prop
  | nil (meter : Meter) : Run meter [] meter
  | idle {before after : Meter} {now : Nat} {trace : List (Nat × Int)}
      (order : before.last ≤ now) (run : Run before trace after) :
      Run before ((now, 0) :: trace) after
  | cons {before between after : Meter} {now : Nat} {out : Int} {trace : List (Nat × Int)}
      (pays : Pays terms before now out between) (run : Run between trace after) :
      Run before ((now, out) :: trace) after

/-- What leaves within a span of time. -/
def within (first last : Nat) (trace : List (Nat × Int)) : Int :=
  ((trace.filter fun entry => first ≤ entry.1 ∧ entry.1 ≤ last).map Prod.snd).sum

variable {terms} {before after : Meter} {trace : List (Nat × Int)}

@[simp]
theorem within_nil (first last : Nat) : within first last [] = 0 := rfl

theorem within_cons (first last now : Nat) (out : Int) (trace : List (Nat × Int)) :
    within first last ((now, out) :: trace) =
      (if first ≤ now ∧ now ≤ last then out else 0) + within first last trace := by
  unfold within
  by_cases inside : first ≤ now ∧ now ≤ last
  · rw [List.filter_cons_of_pos (by simpa using inside), if_pos inside, List.map_cons,
      List.sum_cons]
  · rw [List.filter_cons_of_neg (by simpa using inside), if_neg inside, Int.zero_add]

/-- Two payments at one time are one. -/
theorem Pays.merge {between : Meter} {now : Nat} {out more : Int} (unit : 0 < terms.unit)
    (first : Pays terms before now out between) (second : Pays terms between now more after) :
    Pays terms before now (out + more) after := by
  have later := second.earned
  rw [first.last, Nat.sub_self, Nat.cast_zero, mul_zero, add_zero] at later
  have left : after.credit + more ≤ between.credit :=
    le_of_mul_le_mul_left later (Int.natCast_pos.mpr unit)
  refine ⟨first.order, second.last, second.solvent, by linarith [first.burst], ?_⟩
  calc (terms.unit : Int) * (after.credit + (out + more))
      = terms.unit * (after.credit + more) + terms.unit * out := by ring
    _ ≤ terms.unit * between.credit + terms.unit * out := by gcongr
    _ = terms.unit * (between.credit + out) := by ring
    _ ≤ terms.unit * before.credit + terms.rate * (now - before.last : Nat) := first.earned

namespace Run

/-- Nothing leaves before the run begins. -/
theorem order (run : Run terms before trace after) : ∀ entry ∈ trace, before.last ≤ entry.1 := by
  induction run with
  | nil => nofun
  | idle order _ ih =>
      intro entry mem
      rcases List.mem_cons.mp mem with rfl | mem
      · exact order
      · exact ih entry mem
  | cons pays _ ih =>
      intro entry mem
      rcases List.mem_cons.mp mem with rfl | mem
      · exact pays.order
      · exact pays.order.trans (pays.last ▸ ih entry mem)

theorem within_late (run : Run terms before trace after) (first : Nat) {last : Nat}
    (late : last < before.last) : within first last trace = 0 := by
  unfold within
  rw [List.filter_eq_nil_iff.mpr]
  · rfl
  · intro entry mem inside
    have := run.order entry mem
    have := (of_decide_eq_true inside).2
    omega

/-- What leaves from the start on is paid by the credit and what is earned. -/
theorem bound_start (run : Run terms before trace after) (solvent : 0 ≤ before.credit)
    (first : Nat) {last : Nat} (order : before.last ≤ last)
    (amounts : ∀ entry ∈ trace, 0 ≤ entry.2) :
    terms.unit * within first last trace ≤
      terms.unit * before.credit + terms.rate * (last - before.last : Nat) := by
  induction run with
  | nil meter =>
      rw [within_nil, Int.mul_zero]
      positivity
  | idle _ _ ih =>
      rw [within_cons, ite_self, Int.zero_add]
      exact ih solvent order fun entry mem => amounts entry (by simp [mem])
  | @cons before between after now out trace pays run ih =>
      have amount : 0 ≤ out := amounts (now, out) (by simp)
      have rest : ∀ entry ∈ trace, 0 ≤ entry.2 := fun entry mem => amounts entry (by simp [mem])
      rw [within_cons]
      by_cases late : last < now
      · rw [run.within_late first (pays.last ▸ late), if_neg (by omega), Int.add_zero, Int.mul_zero]
        positivity
      · have later := ih pays.solvent (by rw [pays.last]; omega) rest
        rw [pays.last] at later
        have earned := pays.earned
        have here : (if first ≤ now ∧ now ≤ last then out else 0) ≤ out := by
          split_ifs
          · exact le_rfl
          · exact amount
        have spans : ((last - before.last : Nat) : Int) =
            (now - before.last : Nat) + (last - now : Nat) := by
          have := pays.order
          omega
        rw [spans]
        calc (terms.unit : Int) *
              ((if first ≤ now ∧ now ≤ last then out else 0) + within first last trace)
            ≤ terms.unit * out + terms.unit * within first last trace := by
              rw [mul_add]
              gcongr
          _ ≤ terms.unit * out +
              (terms.unit * between.credit + terms.rate * (last - now : Nat)) := by
              gcongr
          _ ≤ terms.unit * before.credit +
              terms.rate * ((now - before.last : Nat) + (last - now : Nat)) := by
              linarith

/-- **The rate of a bucket.** What leaves between two times is at most one burst and what is
earned between them. -/
theorem bound (run : Run terms before trace after) (burst : 0 ≤ terms.burst) {first last : Nat}
    (span : first ≤ last) (amounts : ∀ entry ∈ trace, 0 ≤ entry.2) :
    terms.unit * within first last trace ≤
      terms.unit * terms.burst + terms.rate * (last - first : Nat) := by
  induction run with
  | nil meter =>
      rw [within_nil, Int.mul_zero]
      positivity
  | idle _ _ ih =>
      rw [within_cons, ite_self, Int.zero_add]
      exact ih fun entry mem => amounts entry (by simp [mem])
  | @cons before between after now out trace pays run ih =>
      have rest : ∀ entry ∈ trace, 0 ≤ entry.2 := fun entry mem => amounts entry (by simp [mem])
      rw [within_cons]
      by_cases inside : first ≤ now ∧ now ≤ last
      · -- the first entry of the span: what follows is paid by the credit left behind it
        have later := @bound_start terms _ _ _ run pays.solvent first last
          (pays.last ▸ inside.2) rest
        rw [pays.last] at later
        have full := pays.burst
        have shorter : ((last - now : Nat) : Int) ≤ (last - first : Nat) := by omega
        rw [if_pos inside]
        calc (terms.unit : Int) * (out + within first last trace)
            = terms.unit * out + terms.unit * within first last trace := mul_add ..
          _ ≤ terms.unit * out +
              (terms.unit * between.credit + terms.rate * (last - now : Nat)) := by
              gcongr
          _ = terms.unit * (between.credit + out) + terms.rate * (last - now : Nat) := by ring
          _ ≤ terms.unit * terms.burst + terms.rate * (last - first : Nat) := by gcongr
      · rw [if_neg inside, Int.zero_add]
        exact ih rest

end Run

end Foundation.TokenBucket
