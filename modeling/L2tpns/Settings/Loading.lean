import L2tpns.Settings.Saved

/-! # Loading neighbours

What the lines about a neighbour do to the neighbours that are there already
(`L2tpns.Settings.run_neighbourCommands`), and what the lines about several neighbours give
(`L2tpns.Settings.mem_loadAll`).
-/

namespace L2tpns.Settings

open Foundation.CText Cli

variable {env : Surroundings}

theorem no_help {words : List Word} (bare : ∀ word ∈ words, Bare word) :
    cliHelpRequested words = false := by
  rw [← Bool.not_eq_true]
  intro help
  obtain ⟨word, mem, mark⟩ := cliHelpRequested_asks words help
  exact (bare word mem).1.2 mark

theorem bare_three {first second third : Word} (one : Bare first) (two : Bare second)
    (three : Bare third) : ∀ word ∈ [first, second, third], Bare word :=
  List.forall_mem_cons.mpr ⟨one, List.forall_mem_cons.mpr
    ⟨two, List.forall_mem_singleton.mpr three⟩⟩

theorem step_unknown {config : Config} {name : Word} (unknown : env.gethostbyname name = none)
    (words : List Word) : step env config (.neighbour (name :: words)) = config := by
  simp only [step, cmdRouterBgpNeighbour, findBgpNeighbour]
  split_ifs
  · rfl
  · rfl
  · rcases words with _ | ⟨_, _ | _⟩
    · rfl
    · rfl
    · simp [unknown]

section Known

variable {config : Config} {neighbour : Neighbour} {i : Nat}

theorem step_remoteAs (localAs : config.asNumber ≠ 0)
    (bare : Bare neighbour.name)
    (found : findBgpNeighbour env config.neighbour neighbour.name = some (some i)) :
    step env config
        (.neighbour [neighbour.name, "remote-as".toList, decimal neighbour.as.toNat]) =
      config.setNeighbour i
        (remoteAs (config.neighbour.getD i {}) neighbour.name neighbour.as.toNat) := by
  have bound := neighbour.as.toNat_lt
  have help : cliHelpRequested
      [neighbour.name, "remote-as".toList, decimal neighbour.as.toNat] = false :=
    no_help (bare_three bare bare_remoteAs (bare_decimal _))
  have read : atoi (decimal neighbour.as.toNat) = neighbour.as.toNat := atoi_decimal (by omega)
  have inRange : ¬((neighbour.as.toNat : Int) < 0 ∨ 65535 < (neighbour.as.toNat : Int)) := by omega
  have this : isMatch "remote-as" "remote-as".toList = true := rfl
  simp only [step, if_neg localAs, cmdRouterBgpNeighbour, help, found, this, read, if_neg inRange,
    Bool.false_eq_true, if_false, if_true]

theorem step_timers (localAs : config.asNumber ≠ 0) (ok : neighbour.Ok)
    (found : findBgpNeighbour env config.neighbour neighbour.name = some (some i))
    (named : (config.neighbour.getD i {}).name ≠ []) :
    step env config (.neighbour [neighbour.name, "timers".toList, decimalInt neighbour.k,
        decimalInt neighbour.h]) =
      config.setNeighbour i { config.neighbour.getD i {} with
        keepalive := neighbour.keepalive, hold := neighbour.hold } := by
  have help : cliHelpRequested [neighbour.name, "timers".toList, decimalInt neighbour.k,
      decimalInt neighbour.h] = false :=
    no_help (List.forall_mem_cons.mpr
      ⟨ok.bare, bare_three bare_timers (bare_decimalInt _) (bare_decimalInt _)⟩)
  have ⟨keepalive, kept⟩ : (1 ≤ neighbour.k ∧ neighbour.k ≤ 65535) ∧
      (if neighbour.k = bgpKeepaliveTime then -1 else neighbour.k) = neighbour.keepalive := by
    unfold Neighbour.k
    rcases ok.keepalive with standard | ⟨low, high, other⟩
    · simp [standard, bgpKeepaliveTime]
    · rw [if_neg (by omega), if_neg other]
      exact ⟨⟨low, high⟩, rfl⟩
  have ⟨hold, held⟩ : (3 ≤ neighbour.h ∧ neighbour.h ≤ 65535) ∧
      (if neighbour.h = bgpHoldTime then -1 else neighbour.h) = neighbour.hold := by
    unfold Neighbour.h
    rcases ok.hold with standard | ⟨low, high, other⟩
    · simp [standard, bgpHoldTime]
    · rw [if_neg (by omega), if_neg other]
      exact ⟨⟨low, high⟩, rfl⟩
  have readK : atoi (decimalInt neighbour.k) = neighbour.k :=
    atoi_decimalInt (by omega) (by omega)
  have readH : atoi (decimalInt neighbour.h) = neighbour.h :=
    atoi_decimalInt (by omega) (by omega)
  have inRangeK : ¬(neighbour.k < 1 ∨ 65535 < neighbour.k) := by omega
  have inRangeH : ¬(neighbour.h < 3 ∨ 65535 < neighbour.h) := by omega
  have this : isMatch "timers" "timers".toList = true := rfl
  have notAs : isMatch "remote-as" "timers".toList = false := rfl
  have notSource : isMatch "update-source" "timers".toList = false := rfl
  simp only [step, if_neg localAs, cmdRouterBgpNeighbour, help, found, this, notAs, notSource,
    readK, readH, if_neg inRangeK, if_neg inRangeH, if_neg named, not_true_eq_false,
    Bool.false_eq_true, if_false, setTimers, kept, held]

theorem step_source (localAs : config.asNumber ≠ 0)
    (bare : Bare neighbour.name)
    (found : findBgpNeighbour env config.neighbour neighbour.name = some (some i))
    (named : (config.neighbour.getD i {}).name ≠ []) :
    step env config (.neighbour [neighbour.name, "update-source".toList,
        inetNtoa neighbour.updateSource]) =
      config.setNeighbour i { config.neighbour.getD i {} with
        updateSource := neighbour.updateSource } := by
  have help : cliHelpRequested [neighbour.name, "update-source".toList,
      inetNtoa neighbour.updateSource] = false :=
    no_help (bare_three bare bare_updateSource (bare_inetNtoa _))
  have this : isMatch "update-source" "update-source".toList = true := rfl
  have notAs : isMatch "remote-as" "update-source".toList = false := rfl
  simp only [step, if_neg localAs, cmdRouterBgpNeighbour, help, found, this, notAs,
    inetAton_inetNtoa, if_neg named, Bool.false_eq_true, if_false, if_true]

end Known

/-- A neighbour after the lines about one of its name. -/
def Neighbour.renew (old new : Neighbour) : Neighbour :=
  if new.Default then { old with as := new.as }
  else
    { old with
      as := new.as
      keepalive := new.keepalive
      hold := new.hold
      updateSource := if new.updateSource ≠ 0 then new.updateSource else old.updateSource }

@[simp] theorem renew_name (old new : Neighbour) : (old.renew new).name = old.name := by
  unfold Neighbour.renew
  split <;> rfl

/-- A neighbour as its first line makes it. -/
def Neighbour.start (neighbour : Neighbour) : Neighbour :=
  { name := neighbour.name, as := neighbour.as, keepalive := -1, hold := -1 }

variable {new old : Neighbour} {loaded behind : List Neighbour}

/-- The commands renew the neighbour that they find. -/
theorem run_found (lawful : env.Lawful) {addrs : List UInt32} {first : Neighbour}
    (ok : new.Ok) (one : env.gethostbyname new.name = some addrs) {config : Config}
    (localAs : config.asNumber ≠ 0)
    (others : ∀ neighbour ∈ loaded, neighbour.name ≠ new.name) (same : old.name = new.name)
    (found : findBgpNeighbour env (loaded ++ first :: behind) new.name = some (some loaded.length))
    (made : remoteAs first new.name new.as.toNat = { old with as := new.as })
    (slots : config.neighbour = loaded ++ first :: behind) :
    (neighbourCommands new).foldl (step env) config =
      { config with neighbour := loaded ++ old.renew new :: behind } := by
  have known {neighbour : Neighbour} (same : neighbour.name = new.name) :
      findBgpNeighbour env (loaded ++ neighbour :: behind) new.name =
        some (some loaded.length) := by
    rw [findBgpNeighbour, one, Option.map_some, scan_known lawful one others same, Nat.zero_add]
  have get (neighbour : Neighbour) :
      (loaded ++ neighbour :: behind).getD loaded.length {} = neighbour := by simp
  have put (config : Config) (other : Neighbour) :
      ∀ neighbour, config.neighbour = loaded ++ neighbour :: behind →
        config.setNeighbour loaded.length other =
          { config with neighbour := loaded ++ other :: behind } := by
    intro neighbour slots
    simp [Config.setNeighbour, slots]
  have named : old.name ≠ [] := same ▸ bare_ne_nil ok.bare
  -- the three commands, the later two on a neighbour of this name
  have remote := step_remoteAs localAs ok.bare (slots ▸ found)
  rw [put config _ first slots, slots, get, made] at remote
  have timers (neighbour : Neighbour) (kept : neighbour.name = old.name) :
      step env { config with neighbour := loaded ++ neighbour :: behind }
          (.neighbour [new.name, "timers".toList, decimalInt new.k, decimalInt new.h]) =
        { config with neighbour := loaded ++
            { neighbour with keepalive := new.keepalive, hold := new.hold } :: behind } := by
    rw [@step_timers env { config with neighbour := loaded ++ neighbour :: behind } new _ localAs
      ok (known (kept.trans same)) (by rw [get, kept]; exact named), get, put _ _ _ rfl]
  have source (neighbour : Neighbour) (kept : neighbour.name = old.name) :
      step env { config with neighbour := loaded ++ neighbour :: behind }
          (.neighbour [new.name, "update-source".toList, inetNtoa new.updateSource]) =
        { config with neighbour := loaded ++
            { neighbour with updateSource := new.updateSource } :: behind } := by
    rw [@step_source env { config with neighbour := loaded ++ neighbour :: behind } new _ localAs
      ok.bare (known (kept.trans same)) (by rw [get, kept]; exact named), get,
      put _ _ _ rfl]
  unfold neighbourCommands Neighbour.renew
  rw [List.foldl_cons, remote]
  split_ifs with standard given
  · rfl
  · rw [List.foldl_cons, timers { old with as := new.as } rfl, List.foldl_cons,
      source { old with as := new.as, keepalive := new.keepalive, hold := new.hold } rfl]
    rfl
  · rw [List.foldl_cons, timers { old with as := new.as } rfl]
    rfl

/-- The neighbours that are loaded after the lines about one more. -/
def load (env : Surroundings) (loaded : List Neighbour) (new : Neighbour) : List Neighbour :=
  if env.gethostbyname new.name = none then loaded
  else if new.name ∈ loaded.map Neighbour.name then
    loaded.map fun old => if old.name = new.name then old.renew new else old
  else loaded ++ [new.start.renew new]

/-- The slots with the loaded neighbours in front. -/
def slots (loaded : List Neighbour) : List Neighbour :=
  loaded ++ List.replicate (bgpNumPeers - loaded.length) ({} : Neighbour)

theorem others_of_distinct {before : List Neighbour}
    (distinct : ((before ++ old :: behind).map Neighbour.name).Nodup) :
    (∀ n ∈ before, n.name ≠ old.name) ∧ ∀ n ∈ behind, n.name ≠ old.name := by
  rw [List.map_append, List.map_cons, List.nodup_append] at distinct
  obtain ⟨-, tail, apart⟩ := distinct
  exact ⟨fun n mem => apart n.name (List.mem_map_of_mem mem) old.name (by simp),
    fun n mem same => (List.nodup_cons.mp tail).1 (same ▸ List.mem_map_of_mem mem)⟩

theorem map_renew {before : List Neighbour}
    (same : old.name = new.name) (front : ∀ n ∈ before, n.name ≠ new.name)
    (back : ∀ n ∈ behind, n.name ≠ new.name) :
    ((before ++ old :: behind).map fun n => if n.name = new.name then n.renew new else n) =
      before ++ old.renew new :: behind := by
  have kept {others : List Neighbour} (other : ∀ n ∈ others, n.name ≠ new.name) :
      (others.map fun n => if n.name = new.name then n.renew new else n) = others := by
    conv_rhs => rw [← List.map_id others]
    exact List.map_congr_left fun n mem => if_neg (other n mem)
  rw [List.map_append, List.map_cons, kept front, kept back, if_pos same]

/-- **The commands about a neighbour load it.** -/
theorem run_neighbourCommands (lawful : env.Lawful) (ok : new.Ok)
    {config : Config} (localAs : config.asNumber ≠ 0)
    (distinct : (loaded.map Neighbour.name).Nodup) (named : ∀ n ∈ loaded, n.name ≠ [])
    (room : loaded.length < bgpNumPeers) (stand : config.neighbour = slots loaded) :
    (neighbourCommands new).foldl (step env) config =
      { config with neighbour := slots (load env loaded new) } := by
  unfold load
  cases one : env.gethostbyname new.name with
  | none =>
      rw [if_pos rfl, ← stand]
      unfold neighbourCommands
      split_ifs
      all_goals simp only [List.foldl_cons, List.foldl_nil, step_unknown one]
  | some addrs =>
      rw [if_neg (by simp)]
      split_ifs with known
      · obtain ⟨old, mem, same⟩ := List.mem_map.mp known
        obtain ⟨before, behind, rfl⟩ := List.append_of_mem mem
        obtain ⟨front, back⟩ := others_of_distinct distinct
        rw [same] at front back
        rw [map_renew same front back]
        simp only [slots, List.append_assoc, List.cons_append, List.length_append,
          List.length_cons] at stand ⊢
        refine run_found lawful ok one localAs front same ?_ ?_ stand
        · rw [findBgpNeighbour, one, Option.map_some, scan_known lawful one front same,
            Nat.zero_add]
        · have there : old.name ≠ [] := named old (by simp)
          rw [remoteAs, if_neg there, ofInt_short]
      · have others : ∀ n ∈ loaded, n.name ≠ [] ∧ n.name ≠ new.name := fun n mem =>
          ⟨named n mem, fun same => known (same ▸ List.mem_map_of_mem mem)⟩
        obtain ⟨free, eq⟩ : ∃ free, bgpNumPeers - loaded.length = free + 1 :=
          Nat.exists_eq_add_one_of_ne_zero (by omega)
        have left : bgpNumPeers - (loaded ++ [new.start.renew new]).length = free := by
          rw [List.length_append, List.length_singleton]
          omega
        simp only [slots, left, eq, List.replicate_succ, List.append_assoc, List.cons_append,
          List.nil_append] at stand ⊢
        refine run_found lawful ok one localAs (fun n mem => (others n mem).2) rfl ?_ ?_ stand
        · have scan := scan_new lawful one others free 0
          rw [List.replicate_succ] at scan
          rw [findBgpNeighbour, one, Option.map_some, scan, Nat.zero_add]
        · rw [remoteAs, if_pos rfl, ofInt_short, List.take_of_length_le ok.short]
          rfl

/-- The neighbours that the lines about some neighbours give. -/
def loadAll (env : Surroundings) (news : List Neighbour) : List Neighbour :=
  news.foldl (load env) []

/-- What holds of loaded neighbours: they have different names that resolve, and one has a source
only from lines that name it. -/
structure Loaded (env : Surroundings) (news loaded : List Neighbour) : Prop where
  distinct : (loaded.map Neighbour.name).Nodup
  resolves : ∀ n ∈ loaded, (env.gethostbyname n.name).isSome
  source : ∀ n ∈ loaded, n.updateSource ≠ 0 → ∃ new ∈ news, new.name = n.name ∧ ¬ new.Default

theorem loaded_nil (env : Surroundings) (news : List Neighbour) : Loaded env news [] :=
  ⟨List.nodup_nil, nofun, nofun⟩

theorem source_renew (given : (old.renew new).updateSource ≠ 0) :
    old.updateSource ≠ 0 ∨ ¬ new.Default := by
  unfold Neighbour.renew at given
  by_cases standard : new.Default
  · rw [if_pos standard] at given
    exact .inl given
  · exact .inr standard

/-- One more neighbour. -/
theorem Loaded.load {news : List Neighbour} (is : Loaded env news loaded)
    (mem : new ∈ news) : Loaded env news (load env loaded new) := by
  unfold Settings.load
  split_ifs with unknown known
  · exact is
  · refine ⟨?_, fun n there => ?_, fun n there given => ?_⟩
    · have names : (loaded.map fun old => if old.name = new.name then old.renew new else old).map
          Neighbour.name = loaded.map Neighbour.name := by
        rw [List.map_map]
        refine List.map_congr_left fun old _ => ?_
        simp only [Function.comp_apply]
        split_ifs
        · exact renew_name old new
        · rfl
      rw [names]
      exact is.distinct
    · obtain ⟨old, before, rfl⟩ := List.mem_map.mp there
      split_ifs
      · rw [renew_name]
        exact is.resolves old before
      · exact is.resolves old before
    · obtain ⟨old, before, rfl⟩ := List.mem_map.mp there
      split_ifs at given ⊢ with same
      · rw [renew_name]
        rcases source_renew given with already | fresh
        · exact is.source old before already
        · exact ⟨new, mem, same.symm, fresh⟩
      · exact is.source old before given
  · refine ⟨?_, fun n there => ?_, fun n there given => ?_⟩
    · rw [List.map_append, List.map_singleton, renew_name]
      exact List.nodup_append.mpr ⟨is.distinct, List.nodup_singleton _, fun name there other last =>
        fun same => known (List.mem_singleton.mp last ▸ same ▸ there)⟩
    · rcases List.mem_append.mp there with before | last
      · exact is.resolves n before
      · rw [List.mem_singleton.mp last, renew_name]
        exact Option.isSome_iff_ne_none.mpr unknown
    · rcases List.mem_append.mp there with before | last
      · exact is.source n before given
      · rw [List.mem_singleton.mp last] at given ⊢
        rw [renew_name]
        rcases source_renew given with none | fresh
        · exact absurd rfl none
        · exact ⟨new, mem, rfl, fresh⟩

theorem loaded_loadAll (env : Surroundings) (news : List Neighbour) :
    Loaded env news (loadAll env news) := by
  have run {more loaded : List Neighbour} (sub : ∀ n ∈ more, n ∈ news)
      (is : Loaded env news loaded) : Loaded env news (more.foldl (load env) loaded) := by
    induction more generalizing loaded with
    | nil => exact is
    | cons n more ih => exact ih (fun m mem => sub m (by simp [mem])) (is.load (sub n (by simp)))
  exact run (fun _ mem => mem) (loaded_nil env news)

theorem length_load_le (env : Surroundings) (loaded : List Neighbour) (new : Neighbour) :
    (load env loaded new).length ≤ loaded.length + 1 := by
  unfold load
  split_ifs <;> simp

theorem run_neighbours (lawful : env.Lawful) {news : List Neighbour} (ok : ∀ n ∈ news, n.Ok)
    (few : news.length ≤ bgpNumPeers) {config : Config} (localAs : config.asNumber ≠ 0)
    (free : config.neighbour = slots []) :
    (news.flatMap neighbourCommands).foldl (step env) config =
      { config with neighbour := slots (loadAll env news) } := by
  have run {more loaded : List Neighbour} {config : Config} (sub : ∀ n ∈ more, n ∈ news)
      (room : loaded.length + more.length ≤ bgpNumPeers) (localAs : config.asNumber ≠ 0)
      (is : Loaded env news loaded) (stand : config.neighbour = slots loaded) :
      (more.flatMap neighbourCommands).foldl (step env) config =
        { config with neighbour := slots (more.foldl (load env) loaded) } := by
    induction more generalizing loaded config with
    | nil => rw [List.foldl_nil, ← stand]; rfl
    | cons n more ih =>
        rw [List.length_cons] at room
        have named : ∀ m ∈ loaded, m.name ≠ [] := fun m mem =>
          have ⟨addrs, one⟩ := Option.isSome_iff_exists.mp (is.resolves m mem)
          bare_ne_nil (lawful.names m.name addrs one)
        have longer := length_load_le env loaded n
        rw [List.flatMap_cons, List.foldl_append,
          run_neighbourCommands lawful (ok n (sub n (by simp))) localAs is.distinct named (by omega)
            stand]
        exact @ih (load env loaded n) { config with neighbour := slots (load env loaded n) }
          (fun m mem => sub m (by simp [mem])) (by omega) localAs (is.load (sub n (by simp))) rfl
  exact run (fun _ mem => mem) (by simpa using few) localAs (loaded_nil env news) free

@[simp] theorem renew_self (neighbour : Neighbour) : neighbour.renew neighbour = neighbour := by
  unfold Neighbour.renew
  split_ifs <;> rfl

theorem start_renew {neighbour : Neighbour}
    (source : neighbour.Default → neighbour.updateSource = 0) :
    neighbour.start.renew neighbour = neighbour := by
  unfold Neighbour.renew Neighbour.start
  split_ifs with standard given
  · obtain ⟨name, as, keepalive, hold, updateSource⟩ := neighbour
    have ⟨keepaliveEq, holdEq⟩ := standard
    have sourceEq := source standard
    simp only at keepaliveEq holdEq sourceEq
    simp [keepaliveEq, holdEq, sourceEq]
  · rfl
  · obtain ⟨name, as, keepalive, hold, updateSource⟩ := neighbour
    have sourceEq := not_not.mp given
    simp only at sourceEq
    simp [sourceEq]

/-- **What is loaded is what was saved**, where nothing about a neighbour is lost. -/
theorem mem_loadAll {news : List Neighbour}
    (same : ∀ n ∈ news, ∀ m ∈ news, n.name = m.name → n = m)
    (resolves : ∀ n ∈ news, (env.gethostbyname n.name).isSome)
    (source : ∀ n ∈ news, n.Default → n.updateSource = 0) (neighbour : Neighbour) :
    neighbour ∈ loadAll env news ↔ neighbour ∈ news := by
  have run {more loaded : List Neighbour} (left : ∀ n ∈ more, n ∈ news)
      (before : ∀ n ∈ loaded, n ∈ news) :
      neighbour ∈ more.foldl (load env) loaded ↔ neighbour ∈ loaded ∨ neighbour ∈ more := by
    induction more generalizing loaded with
    | nil => simp
    | cons n more ih =>
        have own : n ∈ news := left n (by simp)
        have members (m : Neighbour) : m ∈ load env loaded n ↔ m ∈ loaded ∨ m = n := by
          unfold load
          rw [if_neg (Option.isSome_iff_ne_none.mp (resolves n own))]
          split_ifs with known
          · obtain ⟨old, mem, eq⟩ := List.mem_map.mp known
            have unchanged : (loaded.map fun old =>
                if old.name = n.name then old.renew n else old) = loaded := by
              conv_rhs => rw [← List.map_id loaded]
              refine List.map_congr_left fun other there => ?_
              split_ifs with name
              · rw [same other (before other there) n own name, renew_self]
                rfl
              · rfl
            rw [unchanged, ← same old (before old mem) n own eq]
            exact ⟨.inl, fun or => or.elim id fun eq => eq ▸ mem⟩
          · rw [List.mem_append, List.mem_singleton, start_renew (source n own)]
        rw [List.foldl_cons, ih (fun m mem => left m (by simp [mem])) fun m mem =>
          ((members m).mp mem).elim (before m) (fun eq => eq ▸ own), members, List.mem_cons]
        exact or_assoc
  rw [loadAll, run (fun _ mem => mem) fun _ mem => absurd mem List.not_mem_nil]
  simp

end L2tpns.Settings
