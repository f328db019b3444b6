import L2tpns.Radius.Bounds

/-! # Filter-Id at login and in a CoA request

A Filter-Id is the name of a filter and `.in` or `.out`. `processrad` and `processdae` both split
it at its first dot. `processrad` compares what follows as a whole, `processdae` only as far as
the attribute goes, so that a part of a suffix is taken for the suffix. They mean the same exactly
if that makes no difference, and no filter with a dot in its name is named
(`L2tpns.Radius.filterId_alike_iff`).
-/

namespace L2tpns.Radius

open Avp (Memory readBytes readBytes_length readBytes_append)
open Server (State FilterSide findFilter)

/-- What follows the name of a filter. -/
def suffix : FilterSide → List UInt8
  | .inbound => text ".in"
  | .outbound => text ".out"

/-- A filter for one side of a session, or an attribute that is not accepted. -/
abbrev Selection := Option (Nat × FilterSide)

/-- An Access-Accept with a selection. One that is not accepted changes nothing. -/
def Reply.select (reply : Reply) : Selection → Reply
  | none => reply
  | some (f, .inbound) =>
      { reply with filterIn := f + 1, filtersUsed := reply.filtersUsed ++ [f] }
  | some (f, .outbound) =>
      { reply with filterOut := f + 1, filtersUsed := reply.filtersUsed ++ [f] }

/-- A request with a selection. One that is not accepted is an error. -/
def Unpacked.select (unpacked : Unpacked) : Selection → Unpacked
  | none => { unpacked with error := 404 }
  | some (f, .inbound) => { unpacked with fin := f + 1 }
  | some (f, .outbound) => { unpacked with fout := f + 1 }

/-- The value has one meaning at login and in a request: the filter and the side that it names. -/
def FilterIdAlike (rad : ReplyServer) (dae : DaeServer) (st : State) (value : List UInt8) : Prop :=
  ∃ selection : Selection,
    (∀ reply, filterId { rad with findFilter := findFilter st } reply value =
      reply.select selection) ∧
    (∀ memory received packet unpacked, readBytes memory packet value.length = value →
      unpackAttribute dae st memory received 11 packet value.length unpacked =
        (unpacked.select selection).note
          (value.length ≤ value.length ∧ packet + value.length ≤ received)) ∧
    ∀ f side, selection = some (f, side) ↔
      ∃ name, findFilter st name = some f ∧ value = name ++ suffix side

/-- The side by what follows the first dot at login. -/
def sideOf (rest : List UInt8) : Option FilterSide :=
  if rest = [105, 110] then some .inbound
  else if rest = [111, 117, 116] then some .outbound
  else none

/-- The side by what follows the first dot in a request, compared with as many bytes of memory. -/
def takenFor (dae : DaeServer) (rest : List UInt8) : Option FilterSide :=
  if 46 :: rest = readBytes (literal ".in" dae.behindIn) 0 (rest.length + 1) then some .inbound
  else if 46 :: rest = readBytes (literal ".out" dae.behindOut) 0 (rest.length + 1) then
    some .outbound
  else none

/-- A part of a suffix, or more than one, is taken for a suffix of a filter that there is, or a
filter with a dot in its name is named. -/
def Misread (dae : DaeServer) (st : State) (value : List UInt8) : Prop :=
  (∃ name rest, 46 ∉ name ∧ value = name ++ 46 :: rest ∧ findFilter st name ≠ none ∧
    sideOf rest = none ∧ takenFor dae rest ≠ none) ∨
  ∃ name side, 46 ∈ name ∧ findFilter st name ≠ none ∧ value = name ++ suffix side

variable {rad : ReplyServer} {dae : DaeServer} {st : State} {memory : Memory} {packet n : Nat}
  {name rest value : List UInt8}

theorem suffix_cons (side : FilterSide) :
    ∃ rest, suffix side = 46 :: rest ∧ 46 ∉ rest ∧ sideOf rest = some side := by
  cases side with
  | inbound => exact ⟨[105, 110], rfl, by decide, rfl⟩
  | outbound => exact ⟨[111, 117, 116], rfl, by decide, rfl⟩

theorem sideOf_some {side : FilterSide} (named : sideOf rest = some side) :
    46 :: rest = suffix side := by
  rw [sideOf] at named
  split_ifs at named with inbound outbound
  · obtain rfl := Option.some.inj named
    rw [inbound]
    rfl
  · obtain rfl := Option.some.inj named
    rw [outbound]
    rfl

theorem takenFor_of_sideOf {side : FilterSide} (named : sideOf rest = some side) :
    takenFor dae rest = some side := by
  obtain ⟨whole, cons, _, same⟩ := suffix_cons side
  obtain rfl : rest = whole := (List.cons.inj ((sideOf_some named).trans cons)).2
  cases side <;> (obtain rfl := (List.cons.inj cons).2; rfl)

theorem firstDot_none (plain : 46 ∉ value) : value.findIdx? (· = 46) = none := by
  rw [List.findIdx?_eq_none_iff]
  intro byte member
  simpa using fun same : byte = 46 => plain (same ▸ member)

theorem firstDot_some (plain : 46 ∉ name) (rest : List UInt8) :
    (name ++ 46 :: rest).findIdx? (· = 46) = some name.length := by
  rw [List.findIdx?_append, firstDot_none plain]
  simp [List.findIdx?_cons]

theorem firstDot_unique {other behind : List UInt8} (plain : 46 ∉ name) (bare : 46 ∉ other)
    (same : name ++ 46 :: rest = other ++ 46 :: behind) : name = other ∧ rest = behind := by
  have lengths := firstDot_some plain rest
  rw [same, firstDot_some bare behind] at lengths
  obtain ⟨names, rests⟩ := List.append_inj same (Option.some.inj lengths).symm
  exact ⟨names, (List.cons.inj rests).2⟩

theorem filterId_plain (server : ReplyServer) (reply : Reply) (plain : 46 ∉ value) :
    filterId server reply value = reply := by
  rw [filterId, firstDot_none plain]

theorem filterId_split (server : ReplyServer) (reply : Reply) (plain : 46 ∉ name)
    (rest : List UInt8) : filterId server reply (name ++ 46 :: rest) =
      reply.select ((sideOf rest).bind fun side => (server.findFilter name).map (·, side)) := by
  have behind : (name ++ 46 :: rest).drop (name.length + 1) = rest := by
    simp [List.drop_append]
  rw [filterId, firstDot_some plain]
  simp only [behind, List.take_left, sideOf]
  split_ifs <;> cases server.findFilter name <;> rfl

theorem filterIdOf_plain (read : readBytes memory packet n = value) (plain : 46 ∉ value) :
    filterIdOf dae st memory packet n = none := by
  rw [filterIdOf, read, firstDot_none plain]

theorem filterIdOf_split (plain : 46 ∉ name)
    (read : readBytes memory packet n = name ++ 46 :: rest) :
    filterIdOf dae st memory packet n =
      (findFilter st name).bind fun i => (takenFor dae rest).map (i, ·) := by
  have length : n = name.length + (rest.length + 1) := by
    rw [← readBytes_length memory packet n, read, List.length_append, List.length_cons]
  subst length
  have pieces := read
  rw [readBytes_append] at pieces
  obtain ⟨front, behind⟩ := List.append_inj pieces (readBytes_length _ _ _)
  rw [filterIdOf, read, firstDot_some plain]
  simp only [front, Nat.add_sub_cancel_left, memcmpEq, behind, takenFor, decide_eq_true_eq]
  cases findFilter st name with
  | none => rfl
  | some i => split_ifs <;> rfl

theorem unpackAttribute_filterId (memory : Memory) (received packet n : Nat)
    (unpacked : Unpacked) : unpackAttribute dae st memory received 11 packet n unpacked =
      (unpacked.select (filterIdOf dae st memory packet n)).note
        (n ≤ n ∧ packet + n ≤ received) := by
  rw [unpackAttribute]
  rcases filterIdOf dae st memory packet n with _ | ⟨f, _ | _⟩ <;> rfl

theorem Reply.select_inj {first second : Selection}
    (same : ∀ reply : Reply, reply.select first = reply.select second) : first = second := by
  have fresh := same (.start .fresh (fun _ => 0) true)
  have filterIn := congrArg (fun reply => reply.filterIn) fresh
  have filterOut := congrArg (fun reply => reply.filterOut) fresh
  clear fresh same
  rcases first with _ | ⟨f, _ | _⟩ <;> rcases second with _ | ⟨g, _ | _⟩ <;>
    simp only [Reply.select, Reply.start, Granted.fresh] at filterIn filterOut <;>
    first | rfl | omega | (obtain rfl : f = g := by omega
                           rfl)

theorem Unpacked.select_inj {first second : Selection} {within : Prop} [Decidable within]
    (same : (Unpacked.initial.select first).note within =
      (Unpacked.initial.select second).note within) : first = second := by
  have fin := congrArg Unpacked.fin same
  have fout := congrArg Unpacked.fout same
  clear same
  rcases first with _ | ⟨f, _ | _⟩ <;> rcases second with _ | ⟨g, _ | _⟩ <;>
    simp only [Unpacked.select, Unpacked.note, Unpacked.initial] at fin fout <;>
    first | rfl | omega | (obtain rfl : f = g := by omega
                           rfl)

theorem filterIdAlike_iff {login change : Selection}
    (atLogin : ∀ reply, filterId { rad with findFilter := findFilter st } reply value =
      reply.select login)
    (atChange : ∀ memory packet, readBytes memory packet value.length = value →
      filterIdOf dae st memory packet value.length = change) :
    FilterIdAlike rad dae st value ↔ login = change ∧ ∀ f side, login = some (f, side) ↔
      ∃ name, findFilter st name = some f ∧ value = name ++ suffix side := by
  constructor
  · rintro ⟨selection, login_is, change_is, named⟩
    obtain rfl : login = selection :=
      Reply.select_inj fun reply => (atLogin reply).symm.trans (login_is reply)
    refine ⟨?_, named⟩
    have shown := change_is (stored value) 0 0 .initial readBytes_stored
    rw [unpackAttribute_filterId, atChange _ _ readBytes_stored] at shown
    exact (Unpacked.select_inj shown).symm
  · rintro ⟨rfl, named⟩
    refine ⟨login, atLogin, fun memory received packet unpacked read => ?_, named⟩
    rw [unpackAttribute_filterId, atChange memory packet read]

theorem suffix_unique {other : List UInt8} {side : FilterSide} (plain : 46 ∉ name)
    (bare : 46 ∉ rest) (same : name ++ 46 :: rest = other ++ suffix side) :
    name = other ∧ 46 :: rest = suffix side := by
  obtain ⟨behind, cons, _⟩ := suffix_cons side
  rw [cons] at same ⊢
  have dots := congrArg (List.count 46) same
  simp only [List.count_append, List.count_cons_self, List.count_eq_zero_of_not_mem plain,
    List.count_eq_zero_of_not_mem bare] at dots
  have undotted : 46 ∉ other := List.count_eq_zero.mp (by omega)
  obtain ⟨names, rests⟩ := firstDot_unique plain undotted same
  exact ⟨names, by rw [rests]⟩

/-- A name with one of the suffixes means the same. -/
theorem alike_of_side {side : FilterSide} (plain : 46 ∉ name) (named : sideOf rest = some side) :
    FilterIdAlike rad dae st (name ++ 46 :: rest) ∧ ¬ Misread dae st (name ++ 46 :: rest) := by
  have cons := sideOf_some named
  have bare : 46 ∉ rest := by
    obtain ⟨whole, same, bare, _⟩ := suffix_cons side
    rwa [(List.cons.inj (cons.trans same)).2]
  constructor
  · rw [filterIdAlike_iff (fun reply => filterId_split _ reply plain rest)
      (fun memory packet read => filterIdOf_split plain read), named, takenFor_of_sideOf named]
    refine ⟨?_, fun f other => ?_⟩
    · change (findFilter st name).map (·, side) = _
      cases findFilter st name <;> rfl
    · constructor
      · intro selected
        obtain ⟨g, found, same⟩ := Option.map_eq_some_iff.mp selected
        obtain ⟨rfl, rfl⟩ := Prod.mk.inj same
        exact ⟨name, found, by rw [cons]⟩
      · rintro ⟨named', found, same⟩
        obtain ⟨rfl, here⟩ := suffix_unique plain bare same
        have sides : side = other := by
          rw [cons] at here
          cases side <;> cases other <;> first | rfl | exact absurd here (by decide)
        subst sides
        exact Option.map_eq_some_iff.mpr ⟨f, found, rfl⟩
  · rintro (⟨other, behind, undotted, same, _, none, _⟩ | ⟨other, _, dotted, _, same⟩)
    · obtain ⟨_, rfl⟩ := firstDot_unique plain undotted same
      simp [named] at none
    · exact plain ((suffix_unique plain bare same).1 ▸ dotted)

/-- A value that does not end in a suffix behind its first dot is not accepted at login. -/
theorem alike_iff_of_none (plain : 46 ∉ name) (unnamed : sideOf rest = none) :
    FilterIdAlike rad dae st (name ++ 46 :: rest) ↔
      ¬ Misread dae st (name ++ 46 :: rest) := by
  rw [filterIdAlike_iff (fun reply => filterId_split _ reply plain rest)
    (fun memory packet read => filterIdOf_split plain read), unnamed]
  have dotted {other : List UInt8} {side : FilterSide}
      (same : name ++ 46 :: rest = other ++ suffix side) : 46 ∈ other := by
    by_contra undotted
    obtain ⟨behind, cons, _, named⟩ := suffix_cons side
    rw [cons] at same
    obtain ⟨_, rfl⟩ := firstDot_unique plain undotted same
    exact absurd (unnamed.symm.trans named) nofun
  constructor
  · rintro ⟨refused, texts⟩ (⟨other, behind, undotted, same, found, _, taken⟩ |
      ⟨other, side, _, found, same⟩)
    · obtain ⟨rfl, rfl⟩ := firstDot_unique plain undotted same
      obtain ⟨i, found⟩ := Option.ne_none_iff_exists'.mp found
      obtain ⟨side, taken⟩ := Option.ne_none_iff_exists'.mp taken
      rw [found, taken] at refused
      exact absurd refused nofun
    · obtain ⟨f, found⟩ := Option.ne_none_iff_exists'.mp found
      exact absurd ((texts f side).mpr ⟨other, found, same⟩) nofun
  · intro read
    have untaken : findFilter st name = none ∨ takenFor dae rest = none := by
      by_contra both
      rw [not_or] at both
      exact read (.inl ⟨name, rest, plain, rfl, both.1, unnamed, both.2⟩)
    refine ⟨?_, fun f side => iff_of_false nofun ?_⟩
    · rcases untaken with unknown | other
      · rw [unknown]
        rfl
      · rw [other]
        cases findFilter st name <;> rfl
    · rintro ⟨other, found, same⟩
      exact read (.inr ⟨other, side, dotted same, by rw [found]; exact nofun, same⟩)

/-- **Filter-Id means the same at login and in a CoA request**, and what its text says, exactly
if it is not misread. -/
theorem filterId_alike_iff (rad : ReplyServer) (dae : DaeServer) (st : State)
    (value : List UInt8) : FilterIdAlike rad dae st value ↔ ¬ Misread dae st value := by
  by_cases dotted : 46 ∈ value
  · obtain ⟨name, rest, rfl, plain⟩ := List.eq_append_cons_of_mem dotted
    cases named : sideOf rest with
    | some side =>
        have both := @alike_of_side rad dae st name rest side plain named
        exact iff_of_true both.1 both.2
    | none => exact alike_iff_of_none plain named
  · have login (reply : Reply) : filterId { rad with findFilter := findFilter st } reply value =
        reply.select none := filterId_plain _ reply dotted
    rw [filterIdAlike_iff login (fun memory packet read => filterIdOf_plain read dotted)]
    have apart (name : List UInt8) (side : FilterSide) : value ≠ name ++ suffix side := by
      rintro rfl
      obtain ⟨rest, cons, _⟩ := suffix_cons side
      exact dotted (by simp [cons])
    refine iff_of_true ⟨rfl, fun f side => ?_⟩ ?_
    · exact iff_of_false nofun fun ⟨name, _, same⟩ => apart name side same
    · rintro (⟨name, rest, _, same, _⟩ | ⟨name, side, _, _, same⟩)
      · exact dotted (by simp [same])
      · exact apart name side same

/-- The name of the filter `f` with the dot alone is refused at login, and is a filter for packets
from the user in a request. -/
theorem filterId_cut : ¬ ∀ (rad : ReplyServer) (dae : DaeServer) (st : State)
    (value : List UInt8), value.length ≤ 253 → FilterIdAlike rad dae st value := by
  intro alike
  have plain : 46 ∉ ([102] : List UInt8) := by simp
  have same := ((filterIdAlike_iff (fun reply => filterId_split _ reply plain [])
    (fun memory packet read => filterIdOf_split plain read)).mp
      (alike bareReplyServer (daeMaster []) cutState ([102] ++ [46]) (by simp))).1
  revert same
  decide

end L2tpns.Radius
