import Mathlib.Data.List.Basic

/-! # Agreement by request and acknowledgement

Two parties ask each other for something, and each acknowledges what it is asked for. The
log of one party says in order what it asked for and what was granted, and what it was
asked for and acknowledged. The parties agree (`Foundation.Agreed`) when the last request
was granted after it was made and no different one was made since, and the last request
that was heard has been acknowledged.
-/

namespace Foundation

/-- An entry in the log of a party. -/
inductive Dealing (Body : Type*) where
  | asked (body : Body)
  | granted (body : Body)
  | heard (body : Body)
  | acked (body : Body)
deriving DecidableEq

variable {Body : Type*} {log items : List (Dealing Body)} {body : Body}

def Dealing.asks : Dealing Body → Option Body
  | asked body => some body
  | _ => none

/-- What an entry is asked for. -/
def Dealing.hears : Dealing Body → Option Body
  | heard body => some body
  | _ => none

/-- The last request of the party. -/
def lastAsked (log : List (Dealing Body)) : Option Body := (log.filterMap Dealing.asks).getLast?

/-- The last request of the other party. -/
def lastHeard (log : List (Dealing Body)) : Option Body := (log.filterMap Dealing.hears).getLast?

/-- The last request of the party was granted. -/
def Granted (log : List (Dealing Body)) : Prop :=
  ∃ before body after, log = before ++ .granted body :: after ∧ lastAsked before = some body ∧
    ∀ other, .asked other ∈ after → other = body

/-- The last request of the other party was acknowledged. -/
def Acked (log : List (Dealing Body)) : Prop :=
  ∃ before body after, log = before ++ .acked body :: after ∧ lastHeard before = some body ∧
    ∀ other, .heard other ∉ after

/-- Both parties agree. -/
structure Agreed (log : List (Dealing Body)) : Prop where
  granted : Granted log
  acked : Acked log

@[simp] theorem lastHeard_append_heard :
    lastHeard (log ++ [.heard body]) = some body := by
  simp [lastHeard, List.filterMap_append, Dealing.hears]

theorem lastHeard_append (silent : ∀ other, .heard other ∉ items) :
    lastHeard (log ++ items) = lastHeard log := by
  have none : items.filterMap Dealing.hears = [] := by
    rw [List.filterMap_eq_nil_iff]
    intro item member
    cases item with
    | heard other => exact absurd member (silent other)
    | asked | granted | acked => rfl
  unfold lastHeard
  rw [List.filterMap_append, none, List.append_nil]

theorem Granted.now (asked : lastAsked log = some body) : Granted (log ++ [.granted body]) :=
  ⟨log, body, [], rfl, asked, nofun⟩

theorem Acked.now (heard : lastHeard log = some body) : Acked (log ++ [.acked body]) :=
  ⟨log, body, [], rfl, heard, nofun⟩

theorem Granted.append (granted : Granted log) (silent : ∀ other, .asked other ∉ items) :
    Granted (log ++ items) := by
  obtain ⟨before, body, after, rfl, last, same⟩ := granted
  refine ⟨before, body, after ++ items, by simp, last, fun other member => ?_⟩
  rcases List.mem_append.mp member with earlier | later
  · exact same other earlier
  · exact absurd later (silent other)

theorem Acked.append (acked : Acked log) (silent : ∀ other, .heard other ∉ items) :
    Acked (log ++ items) := by
  obtain ⟨before, body, after, rfl, last, none⟩ := acked
  refine ⟨before, body, after ++ items, by simp, last, fun other member => ?_⟩
  rcases List.mem_append.mp member with earlier | later
  · exact none other earlier
  · exact silent other later

theorem Granted.asked (granted : Granted log) :
    ∃ body, .granted body ∈ log ∧ .asked body ∈ log := by
  obtain ⟨before, body, after, rfl, last, _⟩ := granted
  obtain ⟨item, member, asks⟩ := List.mem_filterMap.mp (List.mem_of_getLast? last)
  cases item with
  | asked other =>
      cases asks
      exact ⟨body, by simp, List.mem_append_left _ member⟩
  | granted | heard | acked => cases asks

end Foundation
