import L2tpns.AccessList.Show

/-! # Saving and reloading access lists

The table of filters with the commands that create, edit and remove them, what `cmd_show_run`
writes about it and what reading these lines does. The filters that are read are the filters
that were written, each with its rules in their order
(`L2tpns.AccessList.reload_saved`).
-/

namespace L2tpns.AccessList

open Foundation.CText Cli

/-- `ip_filtert`; a filter without a name is a free slot. -/
structure Filter where
  name : Word := []
  extended : Bool := false
  rules : List Rule := List.replicate maxFilterRules {}
  used : Int := 0

/-- `MAXFILTER` -/
def maxFilter : Nat := 32

/-- The scan of `find_filter` from slot `i` on, with the first free slot so far. -/
def findFilter (name : Word) : List Filter → Nat → Option Nat → Option Nat
  | [], _, free => free
  | filter :: filters, i, free =>
      if filter.name = [] then findFilter name filters (i + 1) (free.or (some i))
      else if filter.name = name then some i
      else findFilter name filters (i + 1) free

/-- The kind that a word abbreviates. -/
def parseKind (word : Word) : Option Bool :=
  if isMatch "standard" word then some false
  else if isMatch "extended" word then some true
  else none

/-- The characters of names. -/
def isNameChar (c : Char) : Bool := c.isAlphanum ∨ c = '_' ∨ c = '-'

/-- `access_list` on the table: the table, the filter whose configuration mode is entered, and
what is printed. -/
def accessList (helpRequested : List Word → Bool) (filters : List Filter) (argv : List Word)
    (add : Bool) : List Filter × Option Nat × Option String :=
  if helpRequested argv then (filters, none, none)
  else
    match argv with
    | [kind, name] =>
        match parseKind kind with
        | none => (filters, none, some "Invalid access-list type")
        | some extended =>
            if 31 < name.length ∨ ¬ name.all isNameChar then
              (filters, none, some "Invalid access-list name")
            else
              match findFilter name filters 0 none with
              | none =>
                  (filters, none,
                    some (if add then "Too many access-lists" else "Access-list not defined"))
              | some filt =>
                  let filter := filters.getD filt {}
                  if add then
                    if filter.name = [] then
                      (filters.set filt { name := name, extended := extended }, some filt, none)
                    else if filter.extended ≠ extended then
                      (filters, none,
                        some ("Access-list is " ++
                          if filter.extended then "extended" else "standard"))
                    else (filters, some filt, none)
                  else if filter.name = [] then (filters, none, some "Access-list not defined")
                  else if filter.used ≠ 0 then (filters, none, some "Access-list in use")
                  else (filters.set filt {}, none, none)
    | _ => (filters, none, some "Specify access-list type and name")

/-- `cmd_ip_access_list_rule` in the configuration mode of a filter. -/
def enterRule (helpRequested : List Word → Bool) (filters : List Filter) (filt : Nat)
    (command : Word) (argv : List Word) : Option (List Filter) := do
  let filter ← filters[filt]?
  let (rules, _) ← cmdIpAccessListRule helpRequested filter.extended filter.rules command argv
  return filters.set filt { filter with rules := rules }

/-- What happens to the table. Another command line may edit any of its filters, whatever was
done to it since its configuration mode was entered. -/
inductive TableEvent
  | access (argv : List Word) (add : Bool)
  | enters (filt : Fin maxFilter) (command : Word) (argv : List Word)
  | passes (filt : Fin maxFilter) (buf : List UInt8)
  | refers (filt : Fin maxFilter) (used : Int)

def tableStep (helpRequested : List Word → Bool) (filters : List Filter) :
    TableEvent → Option (List Filter)
  | .access argv add => some (accessList helpRequested filters argv add).1
  | .enters filt command argv => enterRule helpRequested filters filt command argv
  | .passes filt buf => do
      let filter ← filters[filt.val]?
      let (_, rules) ← ipFilter buf filter.rules
      return filters.set filt { filter with rules := rules }
  | .refers filt used => do
      let filter ← filters[filt.val]?
      return filters.set filt { filter with used := used }

def freshTable : List Filter := List.replicate maxFilter {}

/-- The `while` over the rules of a filter. -/
def shownRules (rules : List Rule) : List Rule := rules.takeWhile fun rule => rule.action ≠ .none

/-- The lines of `cmd_show_run` about filters. -/
def showFilters (getprotobynumber : UInt8 → Option Word) (filters : List Filter) :
    List (List Char) :=
  filters.flatMap fun filter =>
    if filter.name = [] then []
    else
      ("ip access-list ".toList ++ (if filter.extended then "extended" else "standard").toList ++
          " ".toList ++ filter.name) ::
        (shownRules filter.rules).map (showAccessListRule getprotobynumber filter.extended)

/-- A command line that reads a configuration: the table and the filter under edit. -/
structure Reader where
  filters : List Filter
  filt : Option Nat

/-- One line: a filter is opened, or a rule entered into the open one. -/
def execLine (helpRequested : List Word → Bool) (cli : Reader) (line : List Char) : Option Reader :=
  match splitBlanks line with
  | [] => some cli
  | command :: argv =>
      if command = "ip".toList ∧ argv.head? = some "access-list".toList then
        let (filters, filt, _) := accessList helpRequested cli.filters argv.tail true
        some { filters := filters, filt := filt }
      else if command = "permit".toList ∨ command = "deny".toList then
        match cli.filt with
        | none => some cli
        | some filt =>
            (enterRule helpRequested cli.filters filt command argv).map fun filters =>
              { cli with filters := filters }
      else some cli

/-- What is to survive of a filter: its name, its kind and its rules, without their counters. -/
def Filter.saved (filter : Filter) : Word × Bool × List Rule :=
  (filter.name, filter.extended, (shownRules filter.rules).map Rule.key)

def savedTable (filters : List Filter) : List (Word × Bool × List Rule) :=
  (filters.filter fun filter => filter.name ≠ []).map Filter.saved

/-- The rules of a filter are distinct rules that its parser accepted. -/
def Filter.Holds (filter : Filter) (entries : List Rule) : Prop :=
  Stores filter.rules entries ∧ entries.Nodup ∧ ∀ entry ∈ entries, entry.Parsed filter.extended

/-- A filter as the commands leave it. -/
structure Filter.Ok (filter : Filter) : Prop where
  short : filter.name.length ≤ 31
  letters : filter.name.all isNameChar
  rules : ∃ entries, filter.Holds entries

/-- The table as the commands leave it: no two filters share a name. -/
structure TableOk (filters : List Filter) : Prop where
  size : filters.length = maxFilter
  each : ∀ filter ∈ filters, filter.Ok
  names : ∀ (i j : Nat) (filter other : Filter), filters[i]? = some filter →
    filters[j]? = some other → filter.name = other.name → filter.name ≠ [] → i = j

theorem holds_nil (name : Word) (extended : Bool) :
    Filter.Holds { name := name, extended := extended } [] :=
  ⟨stores_nil, List.nodup_nil, fun _ mem => absurd mem List.not_mem_nil⟩

theorem freshTable_ok : TableOk freshTable where
  size := rfl
  each := by
    intro filter mem
    obtain rfl := List.eq_of_mem_replicate mem
    exact ⟨by simp, rfl, [], holds_nil [] false⟩
  names := by
    intro i j filter other at_i _ _ named
    obtain rfl := List.eq_of_mem_replicate (List.mem_of_getElem? at_i)
    exact absurd rfl named

variable {name : Word} {filters : List Filter} {filter : Filter} {entries : List Rule}

/-- A filter changed in its place. -/
theorem TableOk.set (ok : TableOk filters) {filt : Nat} (good : filter.Ok)
    (fresh : ∀ (i : Nat) (other : Filter), filters[i]? = some other → filter.name = other.name →
      filter.name ≠ [] → i = filt) :
    TableOk (filters.set filt filter) where
  size := by rw [List.length_set, ok.size]
  each := by
    intro other mem
    rcases List.mem_or_eq_of_mem_set mem with old | rfl
    · exact ok.each other old
    · exact good
  names := by
    intro i j first second at_i at_j same named
    rw [List.getElem?_set] at at_i at_j
    split_ifs at at_i with here <;> split_ifs at at_j with there
    · exact here.symm.trans there
    · cases at_i
      exact here.symm.trans (fresh j second at_j same named).symm
    · cases at_j
      exact (fresh i first at_i same.symm (same ▸ named)).trans there
    · exact ok.names i j first second at_i at_j same named

theorem TableOk.update {filters : List Filter} (ok : TableOk filters) {filt : Nat}
    {old filter : Filter} (there : filters[filt]? = some old) (good : filter.Ok)
    (name : filter.name = old.name) : TableOk (filters.set filt filter) :=
  ok.set good fun i other at_i same named =>
    ok.names i filt other old at_i there (same.symm.trans name) (same ▸ named)

theorem findFilter_spec {i f : Nat} {free : Option Nat}
    (found : findFilter name filters i free = some f) :
    (∃ k filter, f = i + k ∧ filters[k]? = some filter ∧ filter.name = name ∧ filter.name ≠ []) ∨
      ((free = some f ∨ ∃ k filter, f = i + k ∧ filters[k]? = some filter ∧ filter.name = []) ∧
        ∀ filter ∈ filters, filter.name ≠ [] → filter.name ≠ name) := by
  induction filters generalizing i free with
  | nil => exact .inr ⟨.inl found, by simp⟩
  | cons filter filters ih =>
      rw [findFilter] at found
      split_ifs at found with unnamed same
      · rcases ih found with ⟨k, other, rfl, there, rest⟩ | ⟨slot, none⟩
        · exact .inl ⟨k + 1, other, by omega, there, rest⟩
        · refine .inr ⟨?_, ?_⟩
          · rcases slot with given | ⟨k, other, rfl, there, rest⟩
            · cases free with
              | none => exact .inr ⟨0, filter, by simpa using given.symm, rfl, unnamed⟩
              | some f' => exact .inl given
            · exact .inr ⟨k + 1, other, by omega, there, rest⟩
          · intro other mem named
            rcases List.mem_cons.mp mem with rfl | mem
            · exact absurd unnamed named
            · exact none other mem named
      · cases found
        exact .inl ⟨0, filter, rfl, rfl, same, unnamed⟩
      · rcases ih found with ⟨k, other, rfl, there, rest⟩ | ⟨slot, none⟩
        · exact .inl ⟨k + 1, other, by omega, there, rest⟩
        · refine .inr ⟨?_, ?_⟩
          · rcases slot with given | ⟨k, other, rfl, there, rest⟩
            · exact .inl given
            · exact .inr ⟨k + 1, other, by omega, there, rest⟩
          · intro other mem named
            rcases List.mem_cons.mp mem with rfl | mem
            · exact same
            · exact none other mem named

theorem findFilter_slot {f : Nat} (found : findFilter name filters 0 none = some f) :
    ∃ filter, filters[f]? = some filter ∧
      (filter.name = name ∧ filter.name ≠ [] ∨
        filter.name = [] ∧ ∀ other ∈ filters, other.name ≠ [] → other.name ≠ name) := by
  rcases findFilter_spec found with ⟨k, filter, rfl, there, rest⟩ |
    ⟨none | ⟨k, filter, rfl, there, free⟩, fresh⟩
  · exact ⟨filter, by simpa using there, .inl rest⟩
  · cases none
  · exact ⟨filter, by simpa using there, .inr ⟨free, fresh⟩⟩

theorem accessList_ok (helpRequested : List Word → Bool)
    (ok : TableOk filters) (argv : List Word) (add : Bool) :
    TableOk (accessList helpRequested filters argv add).1 := by
  unfold accessList
  split
  · exact ok
  split
  swap
  · exact ok
  rename_i kind name _
  split
  · exact ok
  rename_i extended _
  split
  · exact ok
  rename_i valid
  simp only [not_or, Nat.not_lt, not_not] at valid
  split
  · exact ok
  rename_i filt found
  obtain ⟨filter, there, which⟩ := findFilter_slot found
  have get : filters.getD filt {} = filter := by simp [List.getD, there]
  simp only [get]
  split
  · split
    · rename_i free
      refine ok.set ⟨valid.1, valid.2, [], holds_nil name extended⟩ ?_
      intro i other at_i same named
      rcases which with ⟨-, used⟩ | ⟨-, fresh⟩
      · exact absurd free used
      · have mem := List.mem_of_getElem? at_i
        exact absurd same.symm (fresh other mem (same ▸ named))
    · split <;> exact ok
  · split
    · exact ok
    split
    · exact ok
    · refine ok.set ⟨by simp, rfl, [], holds_nil [] false⟩ ?_
      intro i other _ _ named
      exact absurd rfl named

theorem cmdIpAccessListRule_holds (helpRequested : List Word → Bool)
    (holds : filter.Holds entries) (command : Word) (argv : List Word) :
    ∃ rules message entries',
      cmdIpAccessListRule helpRequested filter.extended filter.rules command argv =
          some (rules, message) ∧
        Filter.Holds { filter with rules := rules } entries' := by
  obtain ⟨rules, message, eq, stores⟩ :=
    holds.1.cmdIpAccessListRule helpRequested filter.extended command argv
  refine ⟨rules, message, _, eq, stores, ?_⟩
  unfold enteredRule?
  cases parsed : accessListRule helpRequested filter.extended command argv with
  | none => exact holds.2
  | some answer =>
      cases answer with
      | error message => exact holds.2
      | ok rule =>
          have accepted : rule.Parsed filter.extended := Accepts.parsed parsed
          refine ⟨Foundation.RuleBase.enter_nodup holds.2.1 rule, fun entry mem => ?_⟩
          rcases Foundation.RuleBase.mem_enter mem with old | rfl
          · exact holds.2.2 entry old
          · exact accepted

theorem tableStep_ok (helpRequested : List Word → Bool)
    (ok : TableOk filters) (event : TableEvent) :
    ∃ filters', tableStep helpRequested filters event = some filters' ∧ TableOk filters' := by
  have slot (filt : Fin maxFilter) : ∃ filter, filters[filt.val]? = some filter ∧ filter.Ok := by
    have inside : filt.val < filters.length := by rw [ok.size]; exact filt.isLt
    exact ⟨filters[filt.val], List.getElem?_eq_getElem inside, ok.each _ (List.getElem_mem inside)⟩
  cases event with
  | access argv add => exact ⟨_, rfl, accessList_ok helpRequested ok argv add⟩
  | enters filt command argv =>
      obtain ⟨filter, there, good⟩ := slot filt
      obtain ⟨entries, holds⟩ := good.rules
      obtain ⟨rules, message, entries', eq, holds'⟩ :=
        cmdIpAccessListRule_holds helpRequested holds command argv
      refine ⟨filters.set filt { filter with rules := rules },
        by simp [tableStep, enterRule, there, eq], ok.update there ?_ rfl⟩
      exact ⟨good.short, good.letters, entries', holds'⟩
  | passes filt buf =>
      obtain ⟨filter, there, good⟩ := slot filt
      obtain ⟨entries, holds⟩ := good.rules
      obtain ⟨rules, verdict, eq, stores, -⟩ := ipFilter_stores holds.1 buf
      refine ⟨filters.set filt { filter with rules := rules },
        by simp [tableStep, there, eq], ok.update there ?_ rfl⟩
      exact ⟨good.short, good.letters, entries, stores, holds.2⟩
  | refers filt used =>
      obtain ⟨filter, there, good⟩ := slot filt
      exact ⟨filters.set filt { filter with used := used }, by simp [tableStep, there],
        ok.update there ⟨good.short, good.letters, good.rules⟩ rfl⟩

theorem run_table_ok (helpRequested : List Word → Bool) (events : List TableEvent) :
    ∃ filters, events.foldlM (tableStep helpRequested) freshTable = some filters ∧
      TableOk filters := by
  induction events using List.reverseRecOn with
  | nil => exact ⟨_, rfl, freshTable_ok⟩
  | append_singleton events event ih =>
      obtain ⟨filters, ran, ok⟩ := ih
      obtain ⟨filters', eq, ok'⟩ := tableStep_ok helpRequested ok event
      exact ⟨filters', by simp [List.foldlM_append, ran, eq], ok'⟩

/-- A slot that `memset` cleared. -/
def freeSlot : Filter := {}

def kindWord (extended : Bool) : Word := (if extended then "extended" else "standard").toList

theorem nameChar_plain {c : Char} (letter : isNameChar c) : isSpace c = false ∧ c ≠ '?' := by
  constructor
  · simp only [isSpace, decide_eq_false_iff_not]
    rintro (rfl | rfl | rfl | rfl | rfl | rfl) <;> exact absurd letter (by decide)
  · rintro rfl
    exact absurd letter (by decide)

theorem plain_name (named : name ≠ []) (letters : name.all isNameChar) : Plain name := by
  rw [List.all_eq_true] at letters
  exact ⟨⟨named, fun c mem => (nameChar_plain (letters c mem)).1⟩,
    fun mark => (nameChar_plain (letters _ mark)).2 rfl⟩

/-- The line that opens a filter. -/
def headerLine (filter : Filter) : List Char :=
  "ip access-list ".toList ++ (if filter.extended then "extended" else "standard").toList ++
    " ".toList ++ filter.name

theorem plain_kind (extended : Bool) : Plain (kindWord extended) := by
  cases extended <;> decide

theorem splitBlanks_header (named : filter.name ≠ []) (ok : filter.Ok) :
    splitBlanks (headerLine filter) =
      ["ip".toList, "access-list".toList, kindWord filter.extended, filter.name] := by
  have text : headerLine filter = "ip".toList ++
      ["access-list".toList, kindWord filter.extended, filter.name].flatMap (' ' :: ·) := by
    have opening : "ip access-list ".toList =
        "ip".toList ++ ' ' :: ("access-list".toList ++ [' ']) := rfl
    have blank : " ".toList = [' '] := rfl
    unfold headerLine kindWord
    rw [opening, blank]
    simp only [List.flatMap_cons, List.flatMap_nil, List.append_assoc, List.cons_append,
      List.nil_append, List.append_nil]
  have first : IsWord "ip".toList := by decide
  have second : IsWord "access-list".toList := by decide
  rw [text]
  refine splitBlanks_line first fun word mem => ?_
  rcases List.mem_cons.mp mem with eq | mem
  · exact eq ▸ second
  rcases List.mem_cons.mp mem with eq | mem
  · exact eq ▸ (plain_kind filter.extended).1
  · exact List.mem_singleton.mp mem ▸ (plain_name named ok.letters).1

theorem findFilter_free {loaded : List Filter}
    (others : ∀ filter ∈ loaded, filter.name ≠ [] ∧ filter.name ≠ name) (n i : Nat) :
    findFilter name (loaded ++ List.replicate (n + 1) freeSlot) i none =
      some (i + loaded.length) := by
  have free : freeSlot.name = [] := rfl
  have rest (n i : Nat) (f : Nat) :
      findFilter name (List.replicate n freeSlot) i (some f) = some f := by
    induction n generalizing i with
    | zero => rfl
    | succ n ih => rw [List.replicate_succ, findFilter, if_pos free]; exact ih (i + 1)
  induction loaded generalizing i with
  | nil =>
      rw [List.nil_append, List.replicate_succ, findFilter, if_pos free]
      exact rest n (i + 1) i
  | cons filter loaded ih =>
      have ⟨named, other⟩ := others filter (by simp)
      rw [List.cons_append, findFilter, if_neg named, if_neg other,
        ih (fun f mem => others f (by simp [mem])), List.length_cons]
      congr 1
      omega

theorem set_middle (loaded rest : List Filter) (filter other : Filter) :
    (loaded ++ filter :: rest).set loaded.length other = loaded ++ other :: rest := by
  simp

theorem shownRules_keys {slots : List Rule} (stores : Stores slots entries) :
    (shownRules slots).map Rule.key = entries := by
  have free : 0 < maxFilterRules - entries.length := by have := stores.room; omega
  obtain ⟨more, eq⟩ : ∃ more, maxFilterRules - entries.length = more + 1 :=
    ⟨maxFilterRules - entries.length - 1, by omega⟩
  have keys := stores.keys
  rw [eq] at keys
  have acts := fun entry mem => (stores.formed entry mem).acts
  clear stores free eq
  unfold shownRules
  induction entries generalizing slots with
  | nil =>
      cases slots with
      | nil => rfl
      | cons slot slots =>
          simp only [List.map_cons, List.nil_append, List.replicate_succ, List.cons.injEq] at keys
          have empty : slot.action = .none := congrArg Rule.action keys.1
          rw [List.takeWhile_cons_of_neg (by simp [empty])]
          rfl
  | cons entry entries ih =>
      cases slots with
      | nil => simp at keys
      | cons slot slots =>
          simp only [List.map_cons, List.cons_append, List.cons.injEq] at keys
          have used : slot.action ≠ .none := by
            have same : slot.key.action = entry.action := congrArg Rule.action keys.1
            exact fun none => acts entry (by simp) (same.symm.trans none)
          rw [List.takeWhile_cons_of_pos (by simp [used]), List.map_cons, keys.1,
            ih keys.2 fun e mem => acts e (by simp [mem])]

theorem shown_entries {getprotobynumber : UInt8 → Option Word}
    (stores : Stores filter.rules entries) :
    (shownRules filter.rules).map (showAccessListRule getprotobynumber filter.extended) =
      entries.map (showAccessListRule getprotobynumber filter.extended) := by
  rw [← shownRules_keys stores, List.map_map]
  rfl

section

variable {helpRequested : List Word → Bool} (marks : AsksByMark helpRequested)
include marks

/-- A header opens the first free slot. -/
theorem execLine_header {filter : Filter} (named : filter.name ≠ []) (ok : filter.Ok)
    {loaded : List Filter} (others : ∀ f ∈ loaded, f.name ≠ [] ∧ f.name ≠ filter.name) (n : Nat)
    (filt : Option Nat) :
    execLine helpRequested ⟨loaded ++ List.replicate (n + 1) freeSlot, filt⟩ (headerLine filter) =
      some ⟨loaded ++ { name := filter.name, extended := filter.extended } ::
        List.replicate n freeSlot, some loaded.length⟩ := by
  have noHelp : helpRequested [kindWord filter.extended, filter.name] = false := by
    by_contra asks
    obtain ⟨word, mem, mark⟩ := marks _ (by simpa using asks)
    simp only [List.mem_cons, List.not_mem_nil, or_false] at mem
    rcases mem with rfl | rfl
    · exact (plain_kind filter.extended).2 mark
    · exact (plain_name named ok.letters).2 mark
  have kind : parseKind (kindWord filter.extended) = some filter.extended := by
    cases filter.extended <;> decide
  have valid : ¬ (31 < filter.name.length ∨ ¬ filter.name.all isNameChar) := by
    rintro (long | odd)
    · exact absurd ok.short (by omega)
    · exact odd ok.letters
  have found := findFilter_free others n 0
  rw [Nat.zero_add] at found
  rw [List.replicate_succ] at found ⊢
  have get :
      (loaded ++ freeSlot :: List.replicate n freeSlot).getD loaded.length {} = freeSlot := by
    simp [List.getD]
  have opened : accessList helpRequested (loaded ++ freeSlot :: List.replicate n freeSlot)
      [kindWord filter.extended, filter.name] true =
        (loaded ++ { name := filter.name, extended := filter.extended } ::
          List.replicate n freeSlot, some loaded.length, none) := by
    unfold accessList
    rw [if_neg (by simp [noHelp])]
    simp only [kind]
    rw [if_neg valid]
    have free : freeSlot.name = [] := rfl
    simp only [found, get, if_true, set_middle, free]
  unfold execLine
  rw [splitBlanks_header named ok]
  simp only [List.head?_cons, and_self, if_true, List.tail_cons, opened]

theorem execLine_rule {getprotobynumber : UInt8 → Option Word}
    (knows : KnowsProtocols getprotobynumber) {filter : Filter} {entries : List Rule}
    (stores : Stores filter.rules entries) {rule : Rule} (parsed : rule.Parsed filter.extended)
    (loaded rest : List Filter) :
    ∃ rules, execLine helpRequested ⟨loaded ++ filter :: rest, some loaded.length⟩
        (showAccessListRule getprotobynumber filter.extended rule) =
          some ⟨loaded ++ { filter with rules := rules } :: rest, some loaded.length⟩ ∧
      Stores rules (Foundation.RuleBase.enter (maxFilterRules - 1) entries rule) := by
  obtain ⟨rules, stored, eq, stores'⟩ := stores.storeRule parsed.formed
  refine ⟨rules, ?_, stores'⟩
  have command : actionWord rule ≠ "ip".toList ∧
      (actionWord rule = "permit".toList ∨ actionWord rule = "deny".toList) := by
    unfold actionWord
    split_ifs <;> decide
  have accepts := accepts_words marks parsed
  unfold Accepts at accepts
  unfold execLine
  rw [splitBlanks_shown knows parsed.formed]
  simp only [command.1, command.2, false_and, if_false, if_true]
  simp [enterRule, cmdIpAccessListRule, accepts, eq]

theorem exec_rules {getprotobynumber : UInt8 → Option Word}
    (knows : KnowsProtocols getprotobynumber) {filter : Filter} (loaded rest : List Filter)
    {more : List Rule} (parsed : ∀ rule ∈ more, rule.Parsed filter.extended) {start : List Rule}
    (stores : Stores filter.rules start) :
    ∃ rules, (more.map (showAccessListRule getprotobynumber filter.extended)).foldlM
        (execLine helpRequested) ⟨loaded ++ filter :: rest, some loaded.length⟩ =
          some ⟨loaded ++ { filter with rules := rules } :: rest, some loaded.length⟩ ∧
      Stores rules (more.foldl (Foundation.RuleBase.enter (maxFilterRules - 1)) start) := by
  induction more generalizing filter start with
  | nil => exact ⟨filter.rules, rfl, stores⟩
  | cons rule more ih =>
      obtain ⟨rules, eq, stores'⟩ :=
        execLine_rule marks knows stores (parsed rule (by simp)) loaded rest
      obtain ⟨rules', eq', stores''⟩ :=
        @ih { filter with rules := rules } (fun r mem => parsed r (by simp [mem])) _ stores'
      refine ⟨rules', ?_, stores''⟩
      rw [List.map_cons, List.foldlM_cons, eq]
      exact eq'

theorem exec_filter {getprotobynumber : UInt8 → Option Word}
    (knows : KnowsProtocols getprotobynumber) {filter : Filter} (named : filter.name ≠ [])
    (ok : filter.Ok) {loaded : List Filter}
    (others : ∀ f ∈ loaded, f.name ≠ [] ∧ f.name ≠ filter.name) (n : Nat) (filt : Option Nat) :
    ∃ copy filt', (showFilters getprotobynumber [filter]).foldlM (execLine helpRequested)
        ⟨loaded ++ List.replicate (n + 1) freeSlot, filt⟩ =
          some ⟨(loaded ++ [copy]) ++ List.replicate n freeSlot, filt'⟩ ∧
      copy.saved = filter.saved := by
  obtain ⟨entries, stores, distinct, parsed⟩ := ok.rules
  have lines : showFilters getprotobynumber [filter] = headerLine filter ::
      entries.map (showAccessListRule getprotobynumber filter.extended) := by
    unfold showFilters
    rw [List.flatMap_singleton, if_neg named, shown_entries stores]
    rfl
  obtain ⟨rules, eq, stores'⟩ := @exec_rules _ marks _ knows
    { name := filter.name, extended := filter.extended } loaded (List.replicate n freeSlot)
    entries parsed [] stores_nil
  rw [Foundation.RuleBase.foldl_enter_nodup distinct (Nat.le_sub_one_of_lt stores.room)] at stores'
  refine ⟨{ name := filter.name, extended := filter.extended, rules := rules },
    some loaded.length, ?_, ?_⟩
  · rw [lines, List.foldlM_cons, execLine_header marks named ok others, List.append_assoc]
    exact eq
  · unfold Filter.saved
    rw [shownRules_keys stores, shownRules_keys stores']

theorem exec_filters {getprotobynumber : UInt8 → Option Word}
    (knows : KnowsProtocols getprotobynumber) {filters : List Filter}
    (ok : ∀ filter ∈ filters, filter.name ≠ [] ∧ filter.Ok)
    (distinct : filters.Pairwise fun a b => a.name ≠ b.name) {loaded : List Filter}
    (named : ∀ f ∈ loaded, f.name ≠ [])
    (others : ∀ f ∈ loaded, ∀ filter ∈ filters, f.name ≠ filter.name) {n : Nat}
    (room : filters.length ≤ n) (filt : Option Nat) :
    ∃ copies filt', (showFilters getprotobynumber filters).foldlM (execLine helpRequested)
        ⟨loaded ++ List.replicate n freeSlot, filt⟩ =
          some ⟨(loaded ++ copies) ++ List.replicate (n - filters.length) freeSlot, filt'⟩ ∧
      copies.map Filter.saved = filters.map Filter.saved := by
  induction filters generalizing loaded n filt with
  | nil => exact ⟨[], filt, by simp [showFilters], rfl⟩
  | cons filter filters ih =>
      rw [List.pairwise_cons] at distinct
      obtain ⟨n, rfl⟩ : ∃ less, n = less + 1 := ⟨n - 1, by simp at room; omega⟩
      obtain ⟨copy, filt', eq, same⟩ := exec_filter marks knows (ok filter (by simp)).1
        (ok filter (by simp)).2 (fun f mem => ⟨named f mem, others f mem filter (by simp)⟩) n filt
      have name : copy.name = filter.name := congrArg Prod.fst same
      have named' : ∀ f ∈ loaded ++ [copy], f.name ≠ [] := by
        intro f mem
        rcases List.mem_append.mp mem with old | new
        · exact named f old
        · rw [List.mem_singleton.mp new, name]
          exact (ok filter (by simp)).1
      have others' : ∀ f ∈ loaded ++ [copy], ∀ g ∈ filters, f.name ≠ g.name := by
        intro f mem g there
        rcases List.mem_append.mp mem with old | new
        · exact others f old g (by simp [there])
        · rw [List.mem_singleton.mp new, name]
          exact distinct.1 g there
      obtain ⟨copies, filt'', eq', saved⟩ := ih (fun g mem => ok g (by simp [mem])) distinct.2
        named' others' (Nat.le_of_succ_le_succ room) filt'
      refine ⟨copy :: copies, filt'', ?_, by rw [List.map_cons, List.map_cons, same, saved]⟩
      have split : showFilters getprotobynumber (filter :: filters) =
          showFilters getprotobynumber [filter] ++ showFilters getprotobynumber filters := by
        simp [showFilters]
      have cut : n + 1 - (filter :: filters).length = n - filters.length := by simp
      rw [split, List.foldlM_append, eq, cut, List.append_cons loaded copy copies]
      exact eq'

end

theorem showFilters_named (getprotobynumber : UInt8 → Option Word) (filters : List Filter) :
    showFilters getprotobynumber filters =
      showFilters getprotobynumber (filters.filter fun filter => filter.name ≠ []) := by
  induction filters with
  | nil => rfl
  | cons filter filters ih =>
      unfold showFilters at ih ⊢
      by_cases named : filter.name = []
      · rw [List.flatMap_cons, if_pos named, List.nil_append, ih,
          List.filter_cons_of_neg (by simpa using named)]
      · rw [List.filter_cons_of_pos (by simpa using named), List.flatMap_cons,
          List.flatMap_cons, ih]

theorem TableOk.distinct (ok : TableOk filters) :
    (filters.filter fun filter => filter.name ≠ []).Pairwise fun a b => a.name ≠ b.name := by
  rw [List.pairwise_filter, List.pairwise_iff_getElem]
  intro i j iInside jInside before named _ same
  have eq := ok.names i j _ _ (List.getElem?_eq_getElem iInside) (List.getElem?_eq_getElem jInside)
    same (by simpa using named)
  omega

/-- Whatever was done to the table, reading the lines that are written about it gives the same
filters, each with the same rules in the same order. -/
theorem reload_saved {helpRequested : List Word → Bool} (marks : AsksByMark helpRequested)
    {getprotobynumber : UInt8 → Option Word} (knows : KnowsProtocols getprotobynumber)
    (events : List TableEvent) :
    ∃ filters cli, events.foldlM (tableStep helpRequested) freshTable = some filters ∧
      (showFilters getprotobynumber filters).foldlM (execLine helpRequested) ⟨freshTable, none⟩ =
        some cli ∧
      savedTable cli.filters = savedTable filters := by
  obtain ⟨filters, ran, ok⟩ := run_table_ok helpRequested events
  have room : (filters.filter fun filter => filter.name ≠ []).length ≤ maxFilter :=
    ok.size ▸ List.length_filter_le _ _
  have each : ∀ filter ∈ filters.filter fun filter => filter.name ≠ [],
      filter.name ≠ [] ∧ filter.Ok := fun filter mem =>
    ⟨by simpa using (List.mem_filter.mp mem).2, ok.each filter (List.mem_filter.mp mem).1⟩
  obtain ⟨copies, filt, eq, saved⟩ := @exec_filters _ marks _ knows _ each ok.distinct []
    (by simp) (by simp) _ room none
  have named : ∀ copy ∈ copies, copy.name ≠ [] := by
    intro copy mem
    have there : copy.saved ∈ (filters.filter fun filter => filter.name ≠ []).map Filter.saved :=
      saved ▸ List.mem_map_of_mem mem
    obtain ⟨filter, which, same⟩ := List.mem_map.mp there
    have name : filter.name = copy.name := congrArg Prod.fst same
    exact name ▸ (each filter which).1
  rw [← showFilters_named] at eq
  refine ⟨filters, _, ran, eq, ?_⟩
  have all : copies.filter (fun filter => filter.name ≠ []) = copies :=
    List.filter_eq_self.mpr fun copy mem => by simpa using named copy mem
  have none (n : Nat) :
      (List.replicate n freeSlot).filter (fun filter => filter.name ≠ []) = [] := by
    refine List.filter_eq_nil_iff.mpr fun free mem => ?_
    rw [List.eq_of_mem_replicate mem]
    simp [freeSlot]
  simp only [savedTable, List.nil_append, List.filter_append, all, none, saved, List.append_nil]

/-- **Access lists survive write memory.** What is printed of an accepted rule is accepted as
the same rule, and a table that is written and read again has the same filters. -/
theorem accessLists_survive {helpRequested : List Word → Bool} (marks : AsksByMark helpRequested)
    {getprotobynumber : UInt8 → Option Word} (knows : KnowsProtocols getprotobynumber) :
    (∀ (extended : Bool) (command : Word) (argv : List Word) (rule : Rule),
      Accepts helpRequested extended command argv rule →
      ∃ command' argv',
        splitBlanks (showAccessListRule getprotobynumber extended rule) = command' :: argv' ∧
          (command' = "permit".toList ∨ command' = "deny".toList) ∧
          Accepts helpRequested extended command' argv' rule) ∧
      ∀ events : List TableEvent, ∃ filters cli,
        events.foldlM (tableStep helpRequested) freshTable = some filters ∧
        (showFilters getprotobynumber filters).foldlM (execLine helpRequested)
          ⟨freshTable, none⟩ = some cli ∧
        savedTable cli.filters = savedTable filters :=
  ⟨fun _ _ _ _ accepts => accepts_shown marks knows accepts, reload_saved marks knows⟩

/-- The lines of the protocol database that matter here. -/
def protocolName (proto : UInt8) : Option Word :=
  if proto = 0 then some "ip".toList
  else if proto = 6 then some "tcp".toList
  else if proto = 17 then some "udp".toList
  else none

theorem protocolName_knows : KnowsProtocols protocolName := ⟨rfl, rfl, rfl⟩

/-- `permit tcp any host 10.0.0.1 eq 80` -/
def webRule : Rule where
  action := .permit
  proto := ipprotoTcp
  src := { wild := inaddrBroadcast }
  dst := { ip := 0x0a000001, ports := { op := .eq, port := 80 } }

theorem webRule_accepted : Accepts cliHelpRequested true "permit".toList
    ["t".toList, "an".toList, "h".toList, "10.1".toList, "e".toList, "80".toList] webRule := rfl

theorem webRule_survives :
    ∃ command argv,
      splitBlanks (showAccessListRule protocolName true webRule) = command :: argv ∧
      (command = "permit".toList ∨ command = "deny".toList) ∧
      Accepts cliHelpRequested true command argv webRule :=
  (accessLists_survive cliHelpRequested_asks protocolName_knows).1 true _ _ _ webRule_accepted

end L2tpns.AccessList
