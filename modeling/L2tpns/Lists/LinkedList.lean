import L2tpns.Foundation.LinkedRing
import L2tpns.Foundation.TransitionSystem

/-! # Linked lists of plugins and hooks

A list has a pointer to its first node, one to its last node and one to the node that an
iteration has come to. Every operation keeps the three right and does to the contents what it
would do to a sequence, but popping: it corrects the first pointer only, and a list is right
after it exactly when the node that it released was neither the last one nor the current one
(`L2tpns.Lists.sound_iff_keeps`).
-/

namespace L2tpns.Lists

open Foundation Foundation.LinkedRing

/-- `li` -/
structure Li where
  data : Nat
  next : Nat
deriving DecidableEq, Repr

/-- `linked_list`, with the nodes that are allocated. Address 0 is `NULL`. -/
structure LinkedList where
  head : Nat
  end_ : Nat
  current : Nat
  node : Nat → Option Li

/-- `ll_init` -/
def llInit : LinkedList := ⟨0, 0, 0, fun _ => none⟩

namespace LinkedList

/-- A write to `i->next`; there is no result when the node is not allocated. -/
def setNext (l : LinkedList) (i next : Nat) : Option LinkedList :=
  (l.node i).map fun li => { l with node := Function.update l.node i (some { li with next }) }

/-- `ll_push`, where `calloc` returned `i` -/
def llPush (l : LinkedList) (i data : Nat) : Option LinkedList :=
  if i = 0 then some l
  else
    let l := { l with node := Function.update l.node i (some ⟨data, 0⟩) }
    if l.end_ ≠ 0 then (l.setNext l.end_ i).map fun l => { l with end_ := i }
    else some { l with head := i, end_ := i }

/-- `ll_pop`: the data that is returned and the list. -/
def llPop (l : LinkedList) : Option (Nat × LinkedList) :=
  if l.head = 0 then some (0, l)
  else
    (l.node l.head).map fun li =>
      (li.data, { l with head := li.next, node := Function.update l.node l.head none })

/-- `ll_reset` -/
def llReset (l : LinkedList) : LinkedList := { l with current := 0 }

/-- `ll_next`: the data that is returned and the list. -/
def llNext (l : LinkedList) : Option (Nat × LinkedList) :=
  (if l.current = 0 then some l.head else (l.node l.current).map Li.next).bind fun current =>
    if current = 0 then some (0, { l with current })
    else (l.node current).map fun li => (li.data, { l with current })

/-- What `ll_delete` does with the node `i` it looks for, behind node `p`. -/
def unlink (l : LinkedList) (i p next : Nat) : Option LinkedList :=
  let l := { l with
    head := if l.head = i then next else l.head
    end_ := if l.end_ = i then p else l.end_ }
  (if p ≠ 0 then l.setNext p next else some l).map fun l =>
    { l with node := Function.update l.node i none, current := 0 }

/-- The loop of `ll_delete` at node `i`, behind node `p`. -/
def deleteFrom (l : LinkedList) (data : Nat) : Nat → Nat → Nat → Option LinkedList
  | 0, _, _ => none
  | fuel + 1, i, p =>
      if i = 0 then some l
      else
        match l.node i with
        | none => none
        | some li =>
            if li.data = data then l.unlink i p li.next
            else l.deleteFrom data fuel li.next i

/-- `ll_delete`: it returns with this list after so many iterations. -/
def llDelete (l : LinkedList) (data fuel : Nat) : Option LinkedList :=
  l.deleteFrom data fuel l.head 0

end LinkedList

/-- Where a node leads to. -/
def nextOf (node : Nat → Option Li) (i : Nat) : Nat := ((node i).map Li.next).getD 0

/-- What a node holds. -/
def dataOf (node : Nat → Option Li) (i : Nat) : Nat := ((node i).map Li.data).getD 0

/-- The nodes of a list are these: each leads to the one behind it and the last one nowhere, and
nothing else is allocated or pointed at. -/
structure Linked (l : LinkedList) (nodes : List Nat) : Prop where
  distinct : nodes.Nodup
  notNull : 0 ∉ nodes
  head : l.head = nodes.headD 0
  forward : Forward (nextOf l.node) nodes 0
  end_ : l.end_ = nodes.getLastD 0
  current : l.current = 0 ∨ l.current ∈ nodes
  live : ∀ i, (l.node i).isSome ↔ i ∈ nodes

/-- A list is well formed and holds these data. -/
def Sound (l : LinkedList) (contents : List Nat) : Prop :=
  ∃ nodes, Linked l nodes ∧ nodes.map (dataOf l.node) = contents

variable {l l' : LinkedList} {nodes contents : List Nat} {table : Nat → Option Li} {i j : Nat}

@[simp]
theorem nextOf_update (li : Option Li) :
    nextOf (Function.update table i li) j =
      if j = i then (li.map Li.next).getD 0 else nextOf table j := by
  by_cases same : j = i
  · subst same
    simp [nextOf]
  · simp [nextOf, same]

@[simp]
theorem dataOf_update (li : Option Li) :
    dataOf (Function.update table i li) j =
      if j = i then (li.map Li.data).getD 0 else dataOf table j := by
  by_cases same : j = i
  · subst same
    simp [dataOf]
  · simp [dataOf, same]

theorem sound_init : Sound llInit [] :=
  ⟨[], ⟨by simp, by simp, rfl, trivial, rfl, .inl rfl, by simp [llInit]⟩, rfl⟩

theorem Linked.allocated (linked : Linked l nodes) (mem : i ∈ nodes) :
    l.node i = some ⟨dataOf l.node i, nextOf l.node i⟩ := by
  obtain ⟨li, is⟩ := Option.isSome_iff_exists.mp ((linked.live i).mpr mem)
  simp [dataOf, nextOf, is]

theorem map_dataOf_congr {table' : Nat → Option Li}
    (same : ∀ i ∈ nodes, dataOf table' i = dataOf table i) :
    nodes.map (dataOf table') = nodes.map (dataOf table) :=
  List.map_congr_left same

theorem Linked.head_ne (linked : Linked l (i :: nodes)) : l.head = i ∧ i ≠ 0 :=
  ⟨linked.head, fun null => linked.notNull (by simp [null])⟩

theorem llPush_first (some : i ≠ 0) (none : l.end_ = 0) (data : Nat) :
    l.llPush i data = .some { l with
      head := i, end_ := i, node := Function.update l.node i (.some ⟨data, 0⟩) } := by
  simp [LinkedList.llPush, some, none]

theorem llPush_behind {li : Li} (some : i ≠ 0) (last : l.end_ ≠ 0) (other : l.end_ ≠ i)
    (there : l.node l.end_ = .some li) (data : Nat) :
    l.llPush i data = .some { l with
      end_ := i
      node := Function.update (Function.update l.node i (.some ⟨data, 0⟩)) l.end_
        (.some { li with next := i }) } := by
  simp [LinkedList.llPush, LinkedList.setNext, some, last, other, there]

/-- **A new element is the last one.** -/
theorem Sound.push (sound : Sound l contents) (unused : l.node i = none) (data : Nat) :
    ∃ l', l.llPush i data = some l' ∧
      Sound l' (if i = 0 then contents else contents ++ [data]) := by
  by_cases null : i = 0
  · exact ⟨l, by simp [LinkedList.llPush, null], by simpa [null] using sound⟩
  rw [if_neg null]
  obtain ⟨nodes, linked, rfl⟩ := sound
  have off : i ∉ nodes := fun mem => by simpa [unused] using (linked.live i).mpr mem
  have other : ∀ j ∈ nodes, j ≠ i := fun j mem same => off (same ▸ mem)
  have distinct : (nodes ++ [i]).Nodup := by
    simpa [List.nodup_append, linked.distinct] using other
  have notNull : 0 ∉ nodes ++ [i] := by simpa [linked.notNull, eq_comm] using null
  cases nodes using List.reverseRecOn with
  | nil =>
      refine ⟨_, llPush_first null linked.end_ data, [i],
        ⟨distinct, notNull, rfl, ⟨by simp, trivial⟩, rfl, ?_, ?_⟩, by simp⟩
      · exact .inl (by simpa using linked.current)
      · intro j
        have dead : l.node j = none := by simpa using linked.live j
        by_cases same : j = i
        · simp [same]
        · simp [same, dead]
  | append_singleton front last _ =>
      have ends : l.end_ = last := by simpa using linked.end_
      have own : last ≠ i := other last (by simp)
      have present : last ≠ 0 := fun null => linked.notNull (by simp [null])
      have there := linked.allocated (i := last) (by simp)
      refine ⟨_, llPush_behind null (ends ▸ present) (ends ▸ own) (ends ▸ there) data,
        front ++ [last] ++ [i], ⟨distinct, notNull, ?_, ?_, by simp, ?_, ?_⟩, ?_⟩
      · rw [headD_append]
        cases front <;> exact linked.head
      · refine linked.forward.concat linked.distinct off ?_ ?_ ?_
        · simp [ends]
        · simp [ends, own.symm]
        · intro y mem differ
          have apart : y ≠ last := by simpa [eq_comm] using differ
          simp [ends, apart, other y mem]
      · rcases linked.current with none | mem
        · exact .inl none
        · exact .inr (List.mem_append_left _ mem)
      · intro j
        by_cases same : j = last
        · simp [ends, same]
        by_cases new : j = i
        · simp [ends, new, own.symm]
        · simpa [ends, same, new] using linked.live j
      · rw [List.map_append]
        congr 1
        · refine map_dataOf_congr fun j mem => ?_
          by_cases same : j = last
          · simp [ends, same]
          · simp [ends, same, other j mem]
        · simp [ends, own.symm]

/-- A node that is out of the list: the node before it, or the list's head, leads to the one
behind it, and the list's end is corrected where it was the last one. -/
structure Unlinks (l : LinkedList) (before : List Nat) (i : Nat) (l' : LinkedList) : Prop where
  head : l'.head = if l.head = i then nextOf l.node i else l.head
  end_ : l'.end_ = if l.end_ = i then before.getLastD 0 else l.end_
  current : l'.current = 0 ∨ l'.current = l.current ∧ l.current ≠ i
  freed : l'.node i = none
  rewritten : ∀ p ∈ before.getLast?, l'.node p = some ⟨dataOf l.node p, nextOf l.node i⟩
  kept : ∀ j ≠ i, before.getLast? ≠ some j → l'.node j = l.node j

theorem Unlinks.dataOf (unlinks : Unlinks l nodes i l') (other : j ≠ i) :
    dataOf l'.node j = Lists.dataOf l.node j := by
  by_cases last : nodes.getLast? = some j
  · simp [Lists.dataOf, unlinks.rewritten j last]
  · simp [Lists.dataOf, unlinks.kept j other last]

/-- **A node that is unlinked leaves a list of the others.** -/
theorem Unlinks.linked {before after : List Nat} (unlinks : Unlinks l before i l')
    (linked : Linked l (before ++ i :: after)) : Linked l' (before ++ after) := by
  have distinct := linked.distinct
  obtain ⟨-, behind, apart⟩ := List.nodup_append.mp distinct
  have alone : i ∉ before ++ after := by
    rw [List.mem_append, not_or]
    exact ⟨fun mem => apart i mem i (by simp) rfl, (List.nodup_cons.mp behind).1⟩
  have other : ∀ j ∈ before ++ after, j ≠ i := fun j mem same => alone (same ▸ mem)
  have follows : nextOf l.node i = after.headD 0 := (forward_append.mp linked.forward).2.1
  refine ⟨distinct.sublist (by simp), fun mem => linked.notNull ?_, ?_, ?_, ?_, ?_, fun j => ?_⟩
  · rw [List.mem_append] at mem ⊢
    exact mem.imp_right (List.mem_cons_of_mem i)
  · rw [unlinks.head, headD_append, linked.head, headD_append, follows]
    cases before with
    | nil => simp
    | cons first before => simp [other first (by simp)]
  · refine linked.forward.unlink distinct (fun p last => ?_) fun j mem last => ?_
    · simp [nextOf, unlinks.rewritten p last]
    · simp [nextOf, unlinks.kept j (other j mem) last]
  · rw [unlinks.end_, linked.end_]
    cases after using List.reverseRecOn with
    | nil => simp
    | append_singleton after last _ =>
        rw [← List.cons_append, ← List.append_assoc, ← List.append_assoc, List.getLastD_concat,
          List.getLastD_concat, if_neg (other last (by simp))]
  · rcases unlinks.current with none | ⟨same, differs⟩
    · exact .inl none
    · rw [same]
      exact linked.current.imp_right fun mem => by
        simpa [differs] using mem
  · by_cases same : j = i
    · simp [same, unlinks.freed, alone]
    by_cases last : before.getLast? = some j
    · simp [unlinks.rewritten j last, List.mem_of_getLast? last]
    · simpa [unlinks.kept j same last, same] using linked.live j

/-- The list is empty, or its first node is neither the last nor the current one. -/
def PopKeeps (l : LinkedList) : Prop := l.head = 0 ∨ l.head ≠ l.end_ ∧ l.head ≠ l.current

instance (l : LinkedList) : Decidable (PopKeeps l) := inferInstanceAs (Decidable (_ ∨ _))

theorem llPop_empty (none : l.head = 0) : l.llPop = some (0, l) := by
  simp [LinkedList.llPop, none]

theorem llPop_node {li : Li} (some : l.head ≠ 0) (there : l.node l.head = .some li) :
    l.llPop = .some (li.data, { l with
      head := li.next, node := Function.update l.node l.head none }) := by
  simp [LinkedList.llPop, some, there]

theorem Linked.pointed (linked : Linked l nodes) (dead : l.node i = none) (some : i ≠ 0) :
    i ≠ l.end_ ∧ i ≠ l.current := by
  have off : i ∉ nodes := fun mem => by simpa [dead] using (linked.live i).mpr mem
  constructor
  · rintro rfl
    rw [linked.end_] at off some
    cases nodes using List.reverseRecOn with
    | nil => simp at some
    | append_singleton front last _ => simp at off
  · rintro rfl
    exact linked.current.elim some off

/-- **Popping returns the oldest element**, and the list is right after it exactly when nothing
pointed at the node that it released. -/
theorem Sound.pop (sound : Sound l contents) :
    ∃ l', l.llPop = some (contents.headD 0, l') ∧ (Sound l' contents.tail ↔ PopKeeps l) := by
  obtain ⟨nodes, linked, rfl⟩ := sound
  cases nodes with
  | nil =>
      have empty : l.head = 0 := linked.head
      exact ⟨l, llPop_empty empty, iff_of_true ⟨[], linked, rfl⟩ (.inl empty)⟩
  | cons i nodes =>
      obtain ⟨rfl, present⟩ := linked.head_ne
      have there := linked.allocated (i := l.head) (by simp)
      refine ⟨_, llPop_node present there, ?_, ?_⟩
      · rintro ⟨nodes', linked', -⟩
        exact .inr (linked'.pointed (by simp) present)
      · intro keeps
        obtain ⟨last, current⟩ := keeps.resolve_left present
        have unlinks : Unlinks l [] l.head { l with
            head := nextOf l.node l.head
            node := Function.update l.node l.head none } :=
          ⟨by simp, by simp [last.symm], .inr ⟨rfl, current.symm⟩, by simp, by simp,
            fun j other _ => by simp [other]⟩
        have distinct := linked.distinct
        refine ⟨nodes, unlinks.linked linked, ?_⟩
        exact map_dataOf_congr fun j mem =>
          unlinks.dataOf fun same => (List.nodup_cons.mp distinct).1 (same ▸ mem)

theorem Linked.unlink {before after : List Nat} (linked : Linked l (before ++ i :: after)) :
    ∃ l', l.unlink i (before.getLastD 0) (nextOf l.node i) = some l' ∧ Unlinks l before i l' := by
  have apart := (List.nodup_append.mp linked.distinct).2.2
  unfold LinkedList.unlink
  cases before using List.reverseRecOn with
  | nil =>
      refine ⟨_, rfl, rfl, by simp, .inl rfl, by simp, by simp, fun j other _ => ?_⟩
      simp [other]
  | append_singleton front p _ =>
      have present : p ≠ 0 := fun null => linked.notNull (by simp [null])
      have other : p ≠ i := apart p (by simp) i (by simp)
      have here := linked.allocated (i := p) (by simp)
      dsimp only
      rw [List.getLastD_concat, if_pos present, LinkedList.setNext, here]
      refine ⟨_, rfl, rfl, by simp, .inl rfl, by simp, ?_, fun j own last => ?_⟩
      · simp [other]
      · have differs : j ≠ p := by simpa [eq_comm] using last
        simp [own, differs]

/-- **Deleting takes the first occurrence out**: the loop has come to `after`, and it returns. -/
theorem Linked.deleteFrom {before after : List Nat} {data : Nat}
    (linked : Linked l (before ++ after)) (absent : ∀ i ∈ before, dataOf l.node i ≠ data) :
    ∃ l', l.deleteFrom data (after.length + 1) (after.headD 0) (before.getLastD 0) = some l' ∧
      Sound l' (((before ++ after).map (dataOf l.node)).erase data) := by
  induction after generalizing before with
  | nil =>
      refine ⟨l, by simp [LinkedList.deleteFrom], before ++ [], linked, ?_⟩
      rw [List.erase_of_not_mem]
      simpa using absent
  | cons i after ih =>
      have present : i ≠ 0 := fun null => linked.notNull (by simp [null])
      have there := linked.allocated (i := i) (by simp)
      have follows : nextOf l.node i = after.headD 0 := (forward_append.mp linked.forward).2.1
      have enters : l.deleteFrom data (after.length + 1 + 1) i (before.getLastD 0) =
          if dataOf l.node i = data then l.unlink i (before.getLastD 0) (nextOf l.node i)
          else l.deleteFrom data (after.length + 1) (nextOf l.node i) i := by
        rw [LinkedList.deleteFrom, if_neg present, there]
      rw [List.length_cons, List.headD_cons, enters]
      by_cases found : dataOf l.node i = data
      · rw [if_pos found]
        obtain ⟨l', unlinked, unlinks⟩ := linked.unlink
        refine ⟨l', unlinked, before ++ after, unlinks.linked linked, ?_⟩
        have distinct := linked.distinct
        have kept : ∀ j ∈ before ++ after, dataOf l'.node j = dataOf l.node j := by
          refine fun j mem => unlinks.dataOf ?_
          rintro rfl
          exact (List.nodup_middle.mp distinct |> List.nodup_cons.mp).1 mem
        rw [map_dataOf_congr kept, List.map_append, List.map_append, List.map_cons, found,
          List.erase_append_right _ (by simpa using absent), List.erase_cons_head]
      · rw [if_neg found, follows]
        have split : before ++ i :: after = (before ++ [i]) ++ after := by simp
        rw [split] at linked ⊢
        have goes := ih linked fun j mem => by
          rcases List.mem_append.mp mem with earlier | here
          · exact absent j earlier
          · rwa [List.mem_singleton.mp here]
        rwa [List.getLastD_concat] at goes

theorem deleteFrom_unique {data fuel fuel' : Nat} {p : Nat} {other : LinkedList}
    (returns : l.deleteFrom data fuel i p = some l')
    (again : l.deleteFrom data fuel' i p = some other) : l' = other := by
  induction fuel generalizing fuel' i p with
  | zero => cases returns
  | succ fuel ih =>
      cases fuel' with
      | zero => cases again
      | succ fuel' =>
          rw [LinkedList.deleteFrom] at returns again
          split_ifs at returns again with null
          · exact Option.some.inj (returns.symm.trans again)
          cases there : l.node i with
          | none => simp [there] at returns
          | some li =>
              simp only [there] at returns again
              split_ifs at returns again with found
              · exact Option.some.inj (returns.symm.trans again)
              · exact ih returns again

theorem Sound.delete (sound : Sound l contents) (data : Nat) :
    ∃ l', (∃ fuel, l.llDelete data fuel = some l') ∧ Sound l' (contents.erase data) := by
  obtain ⟨nodes, linked, rfl⟩ := sound
  obtain ⟨l', returns, after⟩ := @Linked.deleteFrom l [] nodes data linked nofun
  refine ⟨l', ⟨nodes.length + 1, ?_⟩, after⟩
  rw [LinkedList.llDelete, linked.head]
  exact returns

theorem Sound.reset (sound : Sound l contents) : Sound l.llReset contents := by
  obtain ⟨nodes, linked, data⟩ := sound
  exact ⟨nodes, { linked with current := .inl rfl }, data⟩

theorem Linked.next_mem (linked : Linked l nodes) (mem : i ∈ nodes) :
    nextOf l.node i = 0 ∨ nextOf l.node i ∈ nodes := by
  obtain ⟨before, after, rfl⟩ := List.append_of_mem mem
  have follows : nextOf l.node i = after.headD 0 := (forward_append.mp linked.forward).2.1
  rw [follows]
  cases after with
  | nil => exact .inl rfl
  | cons j after => exact .inr (by simp)

/-- The node that an iteration goes on to is one of the list, or none. -/
theorem Sound.next (sound : Sound l contents) :
    ∃ data l', l.llNext = some (data, l') ∧ Sound l' contents := by
  obtain ⟨nodes, linked, rfl⟩ := sound
  obtain ⟨current, goes, stays⟩ : ∃ current,
      (if l.current = 0 then some l.head else (l.node l.current).map Li.next) = some current ∧
        (current = 0 ∨ current ∈ nodes) := by
    by_cases start : l.current = 0
    · refine ⟨l.head, by simp [start], ?_⟩
      rw [linked.head]
      cases nodes <;> simp
    · have mem := linked.current.resolve_left start
      refine ⟨nextOf l.node l.current, ?_, linked.next_mem mem⟩
      rw [if_neg start, linked.allocated mem]
      rfl
  have after : Sound { l with current := current } (nodes.map (dataOf l.node)) :=
    ⟨nodes, { linked with current := stays }, rfl⟩
  by_cases none : current = 0
  · refine ⟨0, { l with current := current }, ?_, after⟩
    rw [LinkedList.llNext, goes, Option.bind_some, if_pos none]
  · have there := linked.allocated (stays.resolve_left none)
    refine ⟨dataOf l.node current, { l with current := current }, ?_, after⟩
    rw [LinkedList.llNext, goes, Option.bind_some, if_neg none, there, Option.map_some]

/-- A call of an operation: the address that it got from the heap, or the data it returned. -/
inductive Call where
  | push (i data : Nat)
  | pop (returned : Nat)
  | delete (data : Nat)
  | reset
  | next (returned : Nat)

/-- The list before the call and after it. The heap gives no address that is in use. -/
def Call.Leads (l : LinkedList) : Call → LinkedList → Prop
  | .push i data, l' => l.node i = none ∧ l.llPush i data = some l'
  | .pop returned, l' => l.llPop = some (returned, l')
  | .delete data, l' => ∃ fuel, l.llDelete data fuel = some l'
  | .reset, l' => l' = l.llReset
  | .next returned, l' => l.llNext = some (returned, l')

/-- The sequence of elements after the call; without memory there is no new one. -/
def Call.after (s : List Nat) : Call → List Nat
  | .push i data => if i = 0 then s else s ++ [data]
  | .pop _ => s.tail
  | .delete data => s.erase data
  | _ => s

/-- A list, and the sequence that the calls were to make. -/
structure History where
  list : LinkedList
  contents : List Nat

/-- Calls of the operations on a list that `ll_init` made. -/
def listSystem : TransitionSystem History Call where
  initial st := st = ⟨llInit, []⟩
  step st call next := call.Leads st.list next.list ∧ next.contents = call.after st.contents

/-- Popping releases no node that the list's end or its iteration points at. -/
def Call.Keeps (st : History) : Call → Prop
  | .pop _ => PopKeeps st.list
  | _ => True

/-- No operation touches memory that is not allocated, and deleting returns. -/
structure Defined (l : LinkedList) : Prop where
  push : ∀ i data, l.node i = none → (l.llPush i data).isSome
  pop : l.llPop.isSome
  delete : ∀ data, ∃ fuel, (l.llDelete data fuel).isSome
  next : l.llNext.isSome

theorem Sound.defined (sound : Sound l contents) : Defined l := by
  refine ⟨fun i data unused => ?_, ?_, fun data => ?_, ?_⟩
  · obtain ⟨l', same, -⟩ := sound.push unused data
    simp [same]
  · obtain ⟨l', same, -⟩ := sound.pop
    simp [same]
  · obtain ⟨l', ⟨fuel, same⟩, -⟩ := sound.delete data
    exact ⟨fuel, by simp [same]⟩
  · obtain ⟨data, l', same, -⟩ := sound.next
    simp [same]

theorem Sound.leads {call : Call} {st next : History} (sound : Sound st.list st.contents)
    (leads : call.Leads st.list next.list) (after : next.contents = call.after st.contents) :
    Sound next.list next.contents ↔ call.Keeps st := by
  rw [after]
  cases call with
  | push i data =>
      obtain ⟨l', same, holds⟩ := sound.push leads.1 data
      obtain rfl := Option.some.inj (same.symm.trans leads.2)
      exact iff_of_true holds trivial
  | pop returned =>
      obtain ⟨l', same, holds⟩ := sound.pop
      obtain ⟨-, rfl⟩ := Prod.mk.inj (Option.some.inj (same.symm.trans leads))
      exact holds
  | delete data =>
      obtain ⟨fuel, leads⟩ := leads
      obtain ⟨l', ⟨fuel', same⟩, holds⟩ := sound.delete data
      obtain rfl := deleteFrom_unique same leads
      exact iff_of_true holds trivial
  | reset =>
      have same : next.list = st.list.llReset := leads
      rw [same]
      exact iff_of_true sound.reset trivial
  | next returned =>
      obtain ⟨data, l', same, holds⟩ := sound.next
      obtain ⟨-, rfl⟩ := Prod.mk.inj (Option.some.inj (same.symm.trans leads))
      exact iff_of_true holds trivial

theorem sound_of_reachable {st : History} (reached : listSystem.ReachableUnder Call.Keeps st) :
    Sound st.list st.contents := by
  induction reached with
  | initial start =>
      rw [start]
      exact sound_init
  | step call _ keeps moves sound => exact (sound.leads moves.1 moves.2).mpr keeps

/-- **Lists stay well formed** in every run in which popping releases no node that the end or the
iteration points at: the elements are those of the sequence, popping returns the oldest one, and
every operation returns. A step of such a run leaves a well-formed list exactly when it meets the
condition too. -/
theorem sound_iff_keeps (st : History) (reached : listSystem.ReachableUnder Call.Keeps st) :
    Sound st.list st.contents ∧ Defined st.list ∧
      (∀ returned next, listSystem.step st (.pop returned) next →
        returned = st.contents.headD 0) ∧
      ∀ call next, listSystem.step st call next →
        (Sound next.list next.contents ↔ call.Keeps st) := by
  have sound := sound_of_reachable reached
  refine ⟨sound, sound.defined, fun returned next leads => ?_, fun call next leads => ?_⟩
  · obtain ⟨l', same, -⟩ := sound.pop
    exact (Prod.mk.inj (Option.some.inj (same.symm.trans leads.1))).1.symm
  · exact sound.leads leads.1 leads.2

/-- A list of one element, at address 8. -/
def pushedOnce : LinkedList := ⟨8, 8, 0, Function.update (fun _ => none) 8 (some ⟨1, 0⟩)⟩

/-- A second element follows, at address 16. -/
def pushedTwice : LinkedList := ⟨8, 16, 0,
  Function.update (Function.update pushedOnce.node 16 (some ⟨2, 0⟩)) 8 (some ⟨1, 16⟩)⟩

theorem pushedTwice_reached : listSystem.ReachableUnder Call.Keeps ⟨pushedTwice, [1, 2]⟩ := by
  have first : listSystem.ReachableUnder Call.Keeps ⟨pushedOnce, [1]⟩ :=
    .step (.push 8 1) (.initial rfl) trivial ⟨⟨rfl, rfl⟩, rfl⟩
  exact .step (.push 16 2) first trivial ⟨⟨rfl, rfl⟩, rfl⟩

theorem pushedTwice_sound : Sound pushedTwice [1, 2] ∧ Defined pushedTwice :=
  have holds := sound_iff_keeps _ pushedTwice_reached
  ⟨holds.1, holds.2.1⟩

/-- The only element is popped: the end still points at its node, which the next `ll_push`
writes to. -/
theorem popped_unsound : ¬ ∀ st, listSystem.Reachable st → Sound st.list st.contents := by
  intro sound
  have pushed : listSystem.Reachable ⟨pushedOnce, [1]⟩ :=
    .step (.push 8 1) (.initial rfl) trivial ⟨⟨rfl, rfl⟩, rfl⟩
  have popped : listSystem.Reachable ⟨⟨0, 8, 0, Function.update pushedOnce.node 8 none⟩, []⟩ :=
    .step (.pop 1) pushed trivial ⟨rfl, rfl⟩
  obtain ⟨nodes, linked, -⟩ := sound _ popped
  exact (linked.pointed (i := 8) rfl (by decide)).1 rfl

end L2tpns.Lists
