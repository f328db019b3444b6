import Mathlib.Data.List.Nodup

/-! # Queues without duplicates

Queueing an item moves it to the end if it is queued already. The queue keeps
its other items, holds each at most once and grows only by new items.
-/

namespace Foundation

universe u

variable {Item : Type u} [DecidableEq Item]

/-- Queue an item, moving it to the end if it is there. -/
def requeue (items : List Item) (item : Item) : List Item := items.erase item ++ [item]

variable {items : List Item}

theorem mem_requeue_self (item : Item) : item ∈ requeue items item :=
  List.mem_append_right _ List.mem_cons_self

theorem mem_requeue {item other : Item} (queued : other ∈ items) :
    other ∈ requeue items item := by
  by_cases same : other = item
  · rw [same]
    exact mem_requeue_self item
  · exact List.mem_append_left _ ((List.mem_erase_of_ne same).mpr queued)

theorem nodup_requeue (nodup : items.Nodup) (item : Item) : (requeue items item).Nodup := by
  apply List.Nodup.append (nodup.erase item) (List.nodup_singleton item)
  intro other queued new
  rw [List.mem_singleton.mp new] at queued
  exact nodup.not_mem_erase queued

theorem length_requeue_of_mem {item : Item} (queued : item ∈ items) :
    (requeue items item).length = items.length := by
  have nonempty := List.length_pos_of_mem queued
  rw [requeue, List.length_append, List.length_erase_of_mem queued, List.length_singleton]
  omega

theorem length_requeue_of_not_mem {item : Item} (new : item ∉ items) :
    (requeue items item).length = items.length + 1 := by
  rw [requeue, List.erase_of_not_mem new, List.length_append, List.length_singleton]

end Foundation
