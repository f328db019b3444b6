import L2tpns.Settings.Lines

/-! # What the configuration keeps

What `find_bgp_neighbour` finds where different hosts have different addresses, and what every
run of commands keeps: strings that stand in their buffers, times in range and a local AS
wherever there are neighbours (`L2tpns.Settings.run_ok`).
-/

namespace L2tpns.Settings

open Foundation.CText Cli

variable {env : Surroundings}

/-- The slot of a name, or a free one where no slot has it. -/
def Finds (neighbours : List Neighbour) (name : Word) (i : Nat) : Prop :=
  ∃ neighbour, neighbours[i]? = some neighbour ∧
    (neighbour.name = name ∨
      neighbour.name = [] ∧ ∀ other ∈ neighbours, other.name ≠ name)

theorem bare_ne_nil {word : Word} (bare : Bare word) : word ≠ [] := bare.1.1.1

variable {name : Word} {addrs : List UInt32}

theorem no_address (lawful : env.Lawful) {other : Word} {others : List UInt32}
    (one : env.gethostbyname name = some addrs) (two : env.gethostbyname other = some others)
    (different : name ≠ other) :
    others.any (· ∈ (addrs.take 4).takeWhile (· ≠ 0)) = false := by
  rw [List.any_eq_false]
  intro addr mem there
  have there := (List.takeWhile_sublist _).mem (of_decide_eq_true there)
  exact lawful.distinct name other addrs others one two different addr
    (List.mem_of_mem_take there) mem

theorem scanNeighbours_spec (lawful : env.Lawful)
    (one : env.gethostbyname name = some addrs) {neighbours : List Neighbour} {i r : Nat}
    {new : Option Nat} (found : scanNeighbours env addrs name neighbours i new = some r) :
    (∃ k neighbour, r = i + k ∧ neighbours[k]? = some neighbour ∧ neighbour.name = name) ∨
      (new = some r ∨ ∃ k neighbour, r = i + k ∧ neighbours[k]? = some neighbour ∧
        neighbour.name = []) ∧ ∀ other ∈ neighbours, other.name ≠ name := by
  have named := bare_ne_nil (lawful.names name addrs one)
  induction neighbours generalizing i new with
  | nil => exact .inr ⟨.inl found, by simp⟩
  | cons neighbour rest ih =>
      -- the slots behind this one, which has another name
      have behind {new' : Option Nat} (other : neighbour.name ≠ name)
          (found : scanNeighbours env addrs name rest (i + 1) new' = some r)
          (free : new' = some r → new = some r ∨ r = i + 0 ∧ neighbour.name = []) :
          (∃ k n, r = i + k ∧ (neighbour :: rest)[k]? = some n ∧ n.name = name) ∨
            (new = some r ∨ ∃ k n, r = i + k ∧ (neighbour :: rest)[k]? = some n ∧ n.name = []) ∧
              ∀ n ∈ neighbour :: rest, n.name ≠ name := by
        rcases ih found with ⟨k, n, rfl, there, same⟩ | ⟨slot, none⟩
        · exact .inl ⟨k + 1, n, by omega, there, same⟩
        · refine .inr ⟨?_, ?_⟩
          · rcases slot with given | ⟨k, n, rfl, there, empty⟩
            · exact (free given).imp_right fun ⟨eq, empty⟩ => ⟨0, neighbour, eq, rfl, empty⟩
            · exact .inr ⟨k + 1, n, by omega, there, empty⟩
          · intro n mem
            rcases List.mem_cons.mp mem with rfl | mem
            · exact other
            · exact none n mem
      rw [scanNeighbours] at found
      split_ifs at found with empty same
      · refine behind (fun same => named (same.symm.trans empty)) found fun given => ?_
        cases new with
        | none => exact .inr ⟨by simpa using given.symm, empty⟩
        | some f => exact .inl given
      · cases found
        exact .inl ⟨0, neighbour, rfl, rfl, same.symm⟩
      · cases others : env.gethostbyname neighbour.name with
        | none =>
            rw [others] at found
            exact behind (Ne.symm same) found .inl
        | some list =>
            rw [others] at found
            simp only [no_address lawful one others same, Bool.false_eq_true, if_false] at found
            exact behind (Ne.symm same) found .inl

theorem find_finds (lawful : env.Lawful) {neighbours : List Neighbour} {i : Nat}
    (found : findBgpNeighbour env neighbours name = some (some i)) :
    Bare name ∧ (env.gethostbyname name).isSome ∧ Finds neighbours name i := by
  obtain ⟨addrs, one, scan⟩ := Option.map_eq_some_iff.mp found
  refine ⟨lawful.names name addrs one, by simp [one], ?_⟩
  rcases scanNeighbours_spec lawful one scan with ⟨k, n, rfl, there, same⟩ |
    ⟨none | ⟨k, n, rfl, there, empty⟩, fresh⟩
  · exact ⟨n, by simpa using there, .inl same⟩
  · cases none
  · exact ⟨n, by simpa using there, .inr ⟨empty, fresh⟩⟩

/-- A name is found where it stands behind other names. -/
theorem scan_known (lawful : env.Lawful)
    (one : env.gethostbyname name = some addrs) {loaded : List Neighbour}
    (others : ∀ neighbour ∈ loaded, neighbour.name ≠ name) {neighbour : Neighbour}
    (same : neighbour.name = name) (rest : List Neighbour) (i : Nat) (new : Option Nat) :
    scanNeighbours env addrs name (loaded ++ neighbour :: rest) i new =
      some (i + loaded.length) := by
  have named := bare_ne_nil (lawful.names name addrs one)
  induction loaded generalizing i new with
  | nil =>
      rw [List.nil_append, scanNeighbours, if_neg (same ▸ named), if_pos same.symm]
      rfl
  | cons first loaded ih =>
      have next (new : Option Nat) :
          scanNeighbours env addrs name (loaded ++ neighbour :: rest) (i + 1) new =
            some (i + (first :: loaded).length) := by
        rw [ih (fun n mem => others n (by simp [mem])), List.length_cons]
        congr 1
        omega
      have other := others first (by simp)
      rw [List.cons_append, scanNeighbours]
      split_ifs with empty here
      · exact next _
      · exact absurd here.symm other
      · cases list : env.gethostbyname first.name with
        | none => exact next _
        | some addrs' =>
            simp only [no_address lawful one list (Ne.symm other), Bool.false_eq_true, if_false]
            exact next _

/-- A name that stands nowhere finds the first free slot. -/
theorem scan_new (lawful : env.Lawful)
    (one : env.gethostbyname name = some addrs) {loaded : List Neighbour}
    (others : ∀ neighbour ∈ loaded, neighbour.name ≠ [] ∧ neighbour.name ≠ name) (n i : Nat) :
    scanNeighbours env addrs name (loaded ++ List.replicate (n + 1) ({} : Neighbour)) i none =
      some (i + loaded.length) := by
  have rest (n i f : Nat) :
      scanNeighbours env addrs name (List.replicate n ({} : Neighbour)) i (some f) = some f := by
    induction n generalizing i with
    | zero => rfl
    | succ n ih => rw [List.replicate_succ, scanNeighbours, if_pos rfl]; exact ih (i + 1)
  induction loaded generalizing i with
  | nil =>
      rw [List.nil_append, List.replicate_succ, scanNeighbours, if_pos rfl]
      exact rest n (i + 1) i
  | cons first loaded ih =>
      have ⟨named, other⟩ := others first (by simp)
      have next :
          scanNeighbours env addrs name (loaded ++ List.replicate (n + 1) ({} : Neighbour)) (i + 1)
            none = some (i + (first :: loaded).length) := by
        rw [ih (fun n mem => others n (by simp [mem])), List.length_cons]
        congr 1
        omega
      rw [List.cons_append, scanNeighbours, if_neg named, if_neg (Ne.symm other)]
      cases list : env.gethostbyname first.name with
      | none => exact next
      | some addrs' =>
          simp only [no_address lawful one list (Ne.symm other), Bool.false_eq_true, if_false]
          exact next

/-- A time as it is kept: the default as -1, or another time in its range. -/
def TimeOk (low standard time : Int) : Prop :=
  time = -1 ∨ (low ≤ time ∧ time ≤ 65535 ∧ time ≠ standard)

/-- What a neighbour command does to the slot of its name. -/
inductive Edits (name : Word) (old : Neighbour) : Neighbour → Prop
  | remoteAs (as : Int) (low : 0 ≤ as) (high : as ≤ 65535) : Edits name old (remoteAs old name as)
  | source (named : old.name ≠ []) (addr : UInt32) :
      Edits name old { old with updateSource := addr }
  | timers (named : old.name ≠ []) (keepalive hold : Int)
      (first : 1 ≤ keepalive ∧ keepalive ≤ 65535) (second : 3 ≤ hold ∧ hold ≤ 65535) :
      Edits name old (setTimers old keepalive hold)
  | clear : Edits name old {}

theorem cmdRouterBgpNeighbour_cases (config : Config) (argv : List Word) :
    (cmdRouterBgpNeighbour env config argv).1 = config ∨
      ∃ name i new, findBgpNeighbour env config.neighbour name = some (some i) ∧
        argv.head? = some name ∧ Edits name (config.neighbour.getD i {}) new ∧
        (cmdRouterBgpNeighbour env config argv).1 = config.setNeighbour i new := by
  unfold cmdRouterBgpNeighbour
  split
  · exact .inl rfl
  split
  swap
  · exact .inl rfl
  rename_i name what first rest _
  split
  · exact .inl rfl
  · exact .inl rfl
  rename_i i found
  simp only
  split
  · split
    · exact .inl rfl
    · rename_i range
      simp only [not_or, not_lt] at range
      exact .inr ⟨name, i, _, found, rfl, .remoteAs _ range.1 range.2, rfl⟩
  split
  · split
    · exact .inl rfl
    rename_i named
    split
    · exact .inl rfl
    · exact .inr ⟨name, i, _, found, rfl, .source named _, rfl⟩
  split
  swap
  · exact .inl rfl
  split
  · exact .inl rfl
  split
  · exact .inl rfl
  rename_i named
  split
  · exact .inl rfl
  rename_i keepalive
  split
  · exact .inl rfl
  rename_i hold
  simp only [not_or, not_lt] at keepalive hold
  exact .inr ⟨name, i, _, found, rfl, .timers named _ _ keepalive hold, rfl⟩

theorem cmdRouterBgpNoNeighbour_cases (config : Config) (argv : List Word) :
    (cmdRouterBgpNoNeighbour env config argv).1 = config ∨
      ∃ name i new, findBgpNeighbour env config.neighbour name = some (some i) ∧
        argv.head? = some name ∧ Edits name (config.neighbour.getD i {}) new ∧
        (cmdRouterBgpNoNeighbour env config argv).1 = config.setNeighbour i new := by
  unfold cmdRouterBgpNoNeighbour
  split
  · exact .inl rfl
  split
  swap
  · exact .inl rfl
  split
  · exact .inl rfl
  · exact .inl rfl
  rename_i i found
  split
  · exact .inl rfl
  · exact .inr ⟨_, i, _, found, rfl, .clear, rfl⟩

def Command.host? : Command → Option Word
  | .neighbour argv => argv.head?
  | .noNeighbour argv => argv.head?
  | _ => none

/-- **What a command does to the neighbours.** It edits the slot of its host, where there is a
local AS, or leaves them. -/
theorem step_neighbour (config : Config) (command : Command) :
    (step env config command).neighbour = config.neighbour ∨
      config.asNumber ≠ 0 ∧ (step env config command).asNumber = config.asNumber ∧
        ∃ name i new, findBgpNeighbour env config.neighbour name = some (some i) ∧
          command.host? = some name ∧ Edits name (config.neighbour.getD i {}) new ∧
          (step env config command).neighbour = config.neighbour.set i new := by
  cases command with
  | set argv =>
      left
      simp only [step, cmdSet]
      repeat' split
      all_goals rfl
  | routerBgp bgpConfigured argv =>
      left
      simp only [step, cmdRouterBgp]
      repeat' split
      all_goals rfl
  | neighbour argv =>
      simp only [step]
      split
      · exact .inl rfl
      rename_i localAs
      rcases @cmdRouterBgpNeighbour_cases env config argv with
        same | ⟨name, i, new, found, head, edits, eq⟩
      · exact .inl (by rw [same])
      · exact .inr ⟨localAs, by rw [eq]; rfl, name, i, new, found, head, edits, by rw [eq]; rfl⟩
  | noNeighbour argv =>
      simp only [step]
      split
      · exact .inl rfl
      rename_i localAs
      rcases @cmdRouterBgpNoNeighbour_cases env config argv with
        same | ⟨name, i, new, found, head, edits, eq⟩
      · exact .inl (by rw [same])
      · exact .inr ⟨localAs, by rw [eq]; rfl, name, i, new, found, head, edits, by rw [eq]; rfl⟩

/-- No command drops the local AS. -/
theorem step_asNumber (config : Config) (command : Command) :
    (step env config command).asNumber = config.asNumber ∨
      (step env config command).asNumber ≠ 0 := by
  cases command with
  | set argv =>
      left
      simp only [step, cmdSet]
      repeat' split
      all_goals rfl
  | routerBgp bgpConfigured argv =>
      simp only [step, cmdRouterBgp]
      split
      · exact .inl rfl
      split
      swap
      · exact .inl rfl
      split
      · exact .inl rfl
      rename_i range
      split
      · exact .inl rfl
      · simp only [not_or, not_lt] at range
        right
        intro zero
        have low : (UInt16.ofInt (atoi _)).toNat = 0 := congrArg UInt16.toNat zero
        rw [UInt16.ofInt, UInt16.toNat_ofNat'] at low
        omega
  | neighbour argv =>
      left
      simp only [step]
      split
      · rfl
      · rcases @cmdRouterBgpNeighbour_cases env config argv with
          same | ⟨_, _, _, _, _, _, eq⟩
        · rw [same]
        · rw [eq]; rfl
  | noNeighbour argv =>
      left
      simp only [step]
      split
      · rfl
      · rcases @cmdRouterBgpNoNeighbour_cases env config argv with
          same | ⟨_, _, _, _, _, _, eq⟩
        · rw [same]
        · rw [eq]; rfl

structure Neighbour.Ok (neighbour : Neighbour) : Prop where
  short : neighbour.name.length ≤ 63
  bare : Bare neighbour.name
  keepalive : TimeOk 1 bgpKeepaliveTime neighbour.keepalive
  hold : TimeOk 3 bgpHoldTime neighbour.hold

/-- The configuration as commands leave it. -/
structure Config.Ok (config : Config) : Prop where
  size : config.neighbour.length = bgpNumPeers
  each : ∀ neighbour ∈ config.neighbour, neighbour.name ≠ [] → neighbour.Ok
  localAs : ∀ neighbour ∈ config.neighbour, neighbour.name ≠ [] → config.asNumber ≠ 0
  stands : ∀ i : Setting, Stands i.size i.type (config.value i)

theorem bare_take {word : Word} (bare : Bare word) (n : Nat) : Bare (word.take (n + 1)) := by
  obtain ⟨⟨⟨named, letters⟩, mark⟩, quote⟩ := bare
  have front {c : Char} (mem : c ∈ word.take (n + 1)) : c ∈ word := List.mem_of_mem_take mem
  refine ⟨⟨⟨?_, fun c mem => letters c (front mem)⟩, fun mem => mark (front mem)⟩,
    fun mem => quote (front mem)⟩
  cases word with
  | nil => exact absurd rfl named
  | cons c word => simp

theorem timeOk_kept {low standard time : Int} (range : low ≤ time ∧ time ≤ 65535) :
    TimeOk low standard (if time = standard then -1 else time) := by
  split_ifs with same
  · exact .inl rfl
  · exact .inr ⟨range.1, range.2, same⟩

theorem Edits.ok {old new : Neighbour} (edits : Edits name old new)
    (bare : Bare name) (before : old.name ≠ [] → old.Ok) (named : new.name ≠ []) : new.Ok := by
  cases edits with
  | remoteAs as low high =>
      unfold Settings.remoteAs at named ⊢
      split_ifs at named ⊢ with free
      · exact ⟨by simp, bare_take bare 62, .inl rfl, .inl rfl⟩
      · exact ⟨(before free).short, (before free).bare, (before free).keepalive,
          (before free).hold⟩
  | source there addr =>
      exact ⟨(before there).short, (before there).bare, (before there).keepalive,
        (before there).hold⟩
  | timers there keepalive hold first second =>
      exact ⟨(before there).short, (before there).bare, timeOk_kept first, timeOk_kept second⟩
  | clear => exact absurd rfl named

theorem stands_store {size : Nat} (some : 0 < size) {arg : Word} :
    ∀ (type : ConfigType) (old : type.Val), (type = .string → '"' ∉ arg ∧ '\n' ∉ arg) →
      Stands size type (store env.inet6 size type arg old)
  | .string, _, clean => by
      have ⟨quote, newline⟩ := clean rfl
      refine ⟨?_, fun mem => quote (List.mem_of_mem_take mem),
        fun mem => newline (List.mem_of_mem_take mem)⟩
      simp only [store, List.length_take]
      omega
  | .int, _, _ => trivial
  | .unsignedLong, _, _ => trivial
  | .short, _, _ => trivial
  | .bool, _, _ => trivial
  | .ipv4, _, _ => trivial
  | .ipv6, _, _ => trivial

theorem size_pos (i : Setting) : 0 < i.size := by
  have all : ∀ descriptor ∈ configValues, 0 < descriptor.size := by decide
  exact all _ (List.get_mem configValues i)

theorem step_value (config : Config) {command : Command}
    (other : ∀ argv, command ≠ .set argv) (i : Setting) :
    (step env config command).value i = config.value i := by
  cases command with
  | set argv => exact absurd rfl (other argv)
  | routerBgp bgpConfigured argv =>
      simp only [step, cmdRouterBgp]
      repeat' split
      all_goals rfl
  | neighbour argv =>
      simp only [step]
      split
      · rfl
      · rcases @cmdRouterBgpNeighbour_cases env config argv with
          same | ⟨_, _, _, _, _, _, eq⟩
        · rw [same]
        · rw [eq]; rfl
  | noNeighbour argv =>
      simp only [step]
      split
      · rfl
      · rcases @cmdRouterBgpNoNeighbour_cases env config argv with
          same | ⟨_, _, _, _, _, _, eq⟩
        · rw [same]
        · rw [eq]; rfl

theorem step_stands {config : Config}
    (stands : ∀ i : Setting, Stands i.size i.type (config.value i)) {command : Command}
    (clean : command.Clean) (i : Setting) :
    Stands i.size i.type ((step env config command).value i) := by
  cases command with
  | set argv =>
      simp only [step, cmdSet]
      split
      · exact stands i
      split
      swap
      · exact stands i
      rename_i key value _
      cases found : (List.finRange configValues.length).find? fun i => Setting.key i = key with
      | none => exact stands i
      | some j =>
          have key_eq : j.key = key := by simpa using List.find?_some found
          by_cases same : i = j
          · subst same
            simp only [Config.setValue, Function.update_self]
            exact stands_store (size_pos i) i.type _ fun string => clean i key_eq string
          · simp only [Config.setValue, Function.update_of_ne same]
            exact stands i
  | routerBgp bgpConfigured argv =>
      rw [@step_value env config (.routerBgp bgpConfigured argv) nofun]
      exact stands i
  | neighbour argv =>
      rw [@step_value env config (.neighbour argv) nofun]
      exact stands i
  | noNeighbour argv =>
      rw [@step_value env config (.noNeighbour argv) nofun]
      exact stands i

theorem step_ok (lawful : env.Lawful) {config : Config} (ok : config.Ok) {command : Command}
    (clean : command.Clean) : (step env config command).Ok := by
  have stands := @step_stands env _ ok.stands _ clean
  rcases @step_neighbour env config command with
    same | ⟨localAs, as, name, i, new, found, -, edits, eq⟩
  · refine ⟨by rw [same, ok.size], fun n mem => ok.each n (same ▸ mem), fun n mem named => ?_,
      stands⟩
    rcases @step_asNumber env config command with kept | nonzero
    · rw [kept]
      exact ok.localAs n (same ▸ mem) named
    · exact nonzero
  · obtain ⟨bare, -, old, there, -⟩ := find_finds lawful found
    have get : config.neighbour.getD i {} = old := by simp [List.getD, there]
    rw [get] at edits
    refine ⟨by rw [eq, List.length_set, ok.size], fun n mem named => ?_, fun n mem named => ?_,
      stands⟩
    · rw [eq] at mem
      rcases List.mem_or_eq_of_mem_set mem with before | rfl
      · exact ok.each n before named
      · exact edits.ok bare (ok.each old (List.mem_of_getElem? there)) named
    · rw [as]
      exact localAs

/-- **Every run of commands leaves the configuration in order.** -/
theorem run_ok (lawful : env.Lawful) {config : Config} (ok : config.Ok) {commands : List Command}
    (clean : ∀ command ∈ commands, command.Clean) : (commands.foldl (step env) config).Ok := by
  induction commands generalizing config with
  | nil => exact ok
  | cons command commands ih =>
      exact ih (step_ok lawful ok (clean command (by simp)))
        fun c mem => clean c (by simp [mem])

end L2tpns.Settings
