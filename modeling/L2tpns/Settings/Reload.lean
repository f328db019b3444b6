import L2tpns.Settings.Loading

/-! # Reloading a saved configuration

What the lines of a configuration give on a fresh one. It is the saved configuration exactly when
every value is kept, the names of the neighbours resolve and differ, and no neighbour has a
source address but default times (`L2tpns.Settings.reload_iff`).
-/

namespace L2tpns.Settings

open Foundation.CText Cli

variable {env : Surroundings}

/-- The default configuration, with strings that stand in their buffers. -/
structure Config.Fresh (config : Config) : Prop where
  asNumber : config.asNumber = 0
  neighbour : config.neighbour = List.replicate bgpNumPeers {}
  stands : ∀ i : Setting, Stands i.size i.type (config.value i)

theorem Config.Fresh.ok {fresh : Config} (is : fresh.Fresh) : fresh.Ok := by
  have free {neighbour : Neighbour} (mem : neighbour ∈ fresh.neighbour)
      (named : neighbour.name ≠ []) : False := by
    rw [is.neighbour] at mem
    exact named (congrArg Neighbour.name (List.eq_of_mem_replicate mem))
  exact ⟨by rw [is.neighbour, List.length_replicate], fun n mem named => (free mem named).elim,
    fun n mem named => (free mem named).elim, is.stands⟩

theorem key_injective : Function.Injective Setting.key := by
  have distinct : (configValues.map (·.key)).Nodup := by decide +kernel
  intro i j same
  have keys : (configValues.map (·.key)).get (i.cast (List.length_map _).symm) =
      (configValues.map (·.key)).get (j.cast (List.length_map _).symm) := by
    simpa [Setting.key] using String.toList_inj.mp same
  have index := (List.nodup_iff_injective_get.mp distinct) keys
  exact Fin.ext (by simpa using congrArg Fin.val index)

theorem find_key (i : Setting) :
    ((List.finRange configValues.length).find? fun j => Setting.key j = i.key) = some i := by
  cases found : (List.finRange configValues.length).find? fun j => Setting.key j = i.key with
  | none => exact absurd (by simp) (List.find?_eq_none.mp found i (List.mem_finRange i))
  | some j => exact congrArg some (key_injective (by simpa using List.find?_some found))

theorem step_setting (saved config : Config) (i : Setting) :
    step env config (settingCommand env saved i) =
      if cliHelpRequested [i.key, saved.text env i] then config
      else config.setValue i
        (store env.inet6 i.size i.type (saved.text env i) (config.value i)) := by
  unfold settingCommand
  simp only [step, cmdSet, find_key]
  split_ifs <;> rfl

/-- The lines about values. -/
theorem run_settings (saved : Config) {settings : List Setting} (distinct : settings.Nodup)
    (config : Config) :
    let read := (settings.map (settingCommand env saved)).foldl (step env) config
    read.asNumber = config.asNumber ∧ read.neighbour = config.neighbour ∧
      ∀ i, read.value i =
        if i ∈ settings ∧ cliHelpRequested [i.key, saved.text env i] = false then
          store env.inet6 i.size i.type (saved.text env i) (config.value i)
        else config.value i := by
  induction settings generalizing config with
  | nil => simp
  | cons i settings ih =>
      have ⟨new, rest⟩ := List.nodup_cons.mp distinct
      have ⟨as, neighbour, value⟩ := ih rest (step env config (settingCommand env saved i))
      simp only [List.map_cons, List.foldl_cons]
      rw [step_setting] at as neighbour value ⊢
      by_cases help : cliHelpRequested [i.key, saved.text env i]
      · rw [if_pos help] at as neighbour value ⊢
        refine ⟨as, neighbour, fun j => ?_⟩
        rw [value]
        by_cases same : j = i
        · subst same
          simp [help]
        · simp [same]
      · rw [if_neg help] at as neighbour value ⊢
        refine ⟨as, neighbour, fun j => ?_⟩
        rw [value]
        by_cases same : j = i
        · subst same
          simp [new, help, Config.setValue]
        · simp [same, Config.setValue]

/-- The configuration after the lines of a saved one are read on a fresh one. -/
def reload (env : Surroundings) (saved fresh : Config) : Config :=
  (showRun env saved).foldl (readLine env) fresh

/-- The same values, local AS and set of neighbours. -/
structure Same (config other : Config) : Prop where
  value : ∀ i, config.value i = other.value i
  asNumber : config.asNumber = other.asNumber
  neighbour : ∀ n, n ∈ config.named ↔ n ∈ other.named

/-- What a saved configuration has to be to survive: a value is printed and read without a loss,
or its text asks for help and it is the default; neighbours with one name are the same; their
names resolve; and one with default times has no source. -/
structure Survives (env : Surroundings) (saved fresh : Config) : Prop where
  value : ∀ i, if cliHelpRequested [i.key, saved.text env i] then fresh.value i = saved.value i
    else Exact i.type (saved.value i)
  distinct : ∀ n ∈ saved.named, ∀ m ∈ saved.named, n.name = m.name → n = m
  resolves : ∀ n ∈ saved.named, (env.gethostbyname n.name).isSome
  source : ∀ n ∈ saved.named, n.Default → n.updateSource = 0

theorem step_routerBgp (config : Config) {as : UInt16} (some : as ≠ 0) :
    step env config (.routerBgp false [decimal as.toNat]) = { config with asNumber := as } := by
  have bound := as.toNat_lt
  have positive : as.toNat ≠ 0 := fun zero => some (UInt16.toNat.inj zero)
  have help : cliHelpRequested [decimal as.toNat] = false :=
    no_help (List.forall_mem_singleton.mpr (bare_decimal _))
  have read : atoi (decimal as.toNat) = as.toNat := atoi_decimal (by omega)
  have inRange : ¬((as.toNat : Int) < 1 ∨ 65535 < (as.toNat : Int)) := by omega
  simp only [step, cmdRouterBgp, help, read, if_neg inRange, Bool.false_eq_true, false_and,
    if_false, ofInt_short]

theorem named_length_le {saved : Config} (ok : saved.Ok) : saved.named.length ≤ bgpNumPeers :=
  ok.size ▸ List.length_filter_le _ _

theorem reload_eq (lawful : env.Lawful) {saved fresh : Config} (ok : saved.Ok)
    (is : fresh.Fresh) :
    (reload env saved fresh).asNumber = saved.asNumber ∧
      (reload env saved fresh).neighbour = slots (loadAll env saved.named) ∧
      ∀ i, (reload env saved fresh).value i =
        if cliHelpRequested [i.key, saved.text env i] = false then
          store env.inet6 i.size i.type (saved.text env i) (fresh.value i)
        else fresh.value i := by
  have settings := @run_settings env saved _ (List.nodup_finRange configValues.length) fresh
  unfold reload
  rw [read_showRun lawful ok, savedCommands, List.foldl_append]
  generalize ((List.finRange configValues.length).map (settingCommand env saved)).foldl (step env)
    fresh = config at settings ⊢
  obtain ⟨as, neighbour, value⟩ := settings
  simp only [List.mem_finRange, true_and] at value
  rw [is.asNumber] at as
  have free : fresh.neighbour = slots [] := is.neighbour
  by_cases none : saved.asNumber = 0
  · have bare : saved.named = [] := by
      rw [Config.named, List.filter_eq_nil_iff]
      intro n mem named
      exact ok.localAs n mem (of_decide_eq_true named) none
    rw [if_pos none, bare]
    exact ⟨as.trans none.symm, neighbour.trans free, value⟩
  · have each : ∀ n ∈ saved.named, n.Ok := fun n mem =>
      ok.each n (List.mem_filter.mp mem).1 (of_decide_eq_true (List.mem_filter.mp mem).2)
    rw [if_neg none, List.foldl_cons, step_routerBgp config none]
    rw [@run_neighbours env lawful _ each (named_length_le ok)
      { config with asNumber := saved.asNumber } none (neighbour.trans free)]
    exact ⟨rfl, rfl, value⟩

theorem mem_named_slots {loaded : List Neighbour} (named : ∀ n ∈ loaded, n.name ≠ [])
    (neighbour : Neighbour) :
    (neighbour ∈ slots loaded ∧ neighbour.name ≠ []) ↔ neighbour ∈ loaded := by
  unfold slots
  rw [List.mem_append]
  constructor
  · rintro ⟨mem | free, some⟩
    · exact mem
    · exact absurd (congrArg Neighbour.name (List.eq_of_mem_replicate free)) some
  · exact fun mem => ⟨.inl mem, named neighbour mem⟩

theorem mem_named_reload (lawful : env.Lawful) {saved fresh : Config} (ok : saved.Ok)
    (is : fresh.Fresh) (n : Neighbour) :
    n ∈ (reload env saved fresh).named ↔ n ∈ loadAll env saved.named := by
  have named : ∀ n ∈ loadAll env saved.named, n.name ≠ [] := fun n mem =>
    have ⟨addrs, one⟩ := Option.isSome_iff_exists.mp
      ((loaded_loadAll env saved.named).resolves n mem)
    bare_ne_nil (lawful.names n.name addrs one)
  rw [Config.named, List.mem_filter, (reload_eq lawful ok is).2.1, decide_eq_true_eq]
  exact mem_named_slots named n

theorem not_same (lawful : env.Lawful) {saved fresh : Config} (ok : saved.Ok) (is : fresh.Fresh)
    {n : Neighbour} (mem : n ∈ saved.named) (source : n.updateSource ≠ 0)
    (standard : ∀ m ∈ saved.named, m.name = n.name → m.Default) :
    ¬ Same (reload env saved fresh) saved := by
  intro same
  have there := (mem_named_reload lawful ok is n).mp ((same.neighbour n).mpr mem)
  obtain ⟨new, own, name, other⟩ := (loaded_loadAll env saved.named).source n there source
  exact other (standard new own name)

/-- Addresses of IPv6 below 10. -/
def smallInet6 : Inet6 where
  pton text := some (BitVec.ofNat 128 (leadingNumber (text.drop 2)))
  ntop addr := "::".toList ++ if addr = 0 then [] else decimal addr.toNat

/-- Hosts that are named by their addresses. -/
def numericHosts (name : Word) : Option (List UInt32) :=
  match inetAton name with
  | some addr => if inetNtoa addr = name then some [addr] else none
  | none => none

/-- The words of a line that is cut at its quotes; every other piece was quoted. -/
def pieceWords : Bool → List (List Char) → List Word
  | _, [] => []
  | false, piece :: pieces => splitBlanks piece ++ pieceWords true pieces
  | true, piece :: pieces => piece :: pieceWords false pieces

def splitQuoted (line : List Char) : List Word := pieceWords false (line.splitOn '"')

def terminal : Surroundings where
  inet6 := smallInet6
  gethostbyname := numericHosts
  splitLine := splitQuoted

theorem smallInet6_inverse : smallInet6.Inverse where
  plain addr := by
    have start : Plain "::".toList := by decide
    simp only [smallInet6]
    split_ifs
    · exact start
    · have ⟨⟨_, letters⟩, mark⟩ := plain_decimal addr.toNat
      refine ⟨⟨by simp, fun c mem => ?_⟩, fun mem => ?_⟩
      · exact (List.mem_append.mp mem).elim (start.1.2 c) (letters c)
      · exact (List.mem_append.mp mem).elim start.2 mark
  noQuote addr mem := by
    simp only [smallInet6] at mem
    split_ifs at mem
    · exact absurd mem (by decide)
    · rcases List.mem_append.mp mem with colon | digit
      · exact absurd colon (by decide)
      · exact (bare_decimal addr.toNat).2 digit
  pton_ntop addr := by
    simp only [smallInet6]
    split_ifs with zero
    · exact congrArg some zero.symm
    · have cut : ("::".toList ++ decimal addr.toNat).drop 2 = decimal addr.toNat := rfl
      rw [cut, leadingNumber_all, BitVec.ofNat_toNat, BitVec.setWidth_eq]

theorem splitBlanks_blank (front rest : List Char) :
    splitBlanks (front ++ ' ' :: rest) = splitBlanks front ++ splitBlanks rest := by
  rw [splitBlanks, List.splitOnP_append_cons front rest rfl, List.filter_append]
  rfl

theorem bare_line {first : Word} {rest : List Word} (one : Bare first)
    (others : ∀ word ∈ rest, Bare word) : '"' ∉ first ++ spaced rest := by
  rw [List.mem_append]
  rintro (front | behind)
  · exact one.2 front
  · obtain ⟨word, mem, quote⟩ := List.mem_flatMap.mp behind
    rcases List.mem_cons.mp quote with blank | quote
    · exact absurd blank (by decide)
    · exact (others word mem).2 quote

theorem splitQuoted_splits : SplitsLines splitQuoted where
  words first rest one others := by
    rw [splitQuoted, List.splitOn_eq_singleton (bare_line one others), pieceWords, pieceWords,
      List.append_nil]
    exact splitBlanks_line one.1.1 fun word mem => (others word mem).1.1
  indented line := by
    have blank (piece : List Char) : splitBlanks (' ' :: piece) = splitBlanks piece :=
      splitBlanks_blank [] piece
    rw [splitQuoted, splitQuoted, List.splitOn_cons_eq_if_modifyHead, if_neg (by decide)]
    cases line.splitOn '"' with
    | nil => rfl
    | cons piece pieces => rw [List.modifyHead_cons, pieceWords, pieceWords, blank]
  quoted first second value one two quote _ := by
    have front : '"' ∉ first ++ spaced [second] ++ [' '] := by
      have own := bare_line one (List.forall_mem_singleton.mpr two)
      rw [List.mem_append]
      rintro (words | blank)
      · exact own words
      · exact absurd blank (by decide)
    have opening : " \"".toList = [' ', '"'] := rfl
    have close : "\"".toList = ['"'] := rfl
    have line : first ++ spaced [second] ++ " \"".toList ++ value ++ "\"".toList =
        (first ++ spaced [second] ++ [' ']) ++ '"' :: (value ++ '"' :: []) := by
      rw [opening, close]
      simp only [List.append_assoc, List.cons_append, List.nil_append]
    have cut {text rest : List Char} (none : '"' ∉ text) :
        (text ++ '"' :: rest).splitOn '"' = text :: rest.splitOn '"' := by
      rw [List.splitOn_eq_splitOnP, List.splitOnP_append_cons_of_forall_mem _ '"' rfl]
      · rfl
      · intro c mem
        exact beq_false_of_ne fun eq => none (eq ▸ mem)
    have words : splitBlanks (first ++ spaced [second] ++ [' ']) = [first, second] := by
      rw [splitBlanks_blank]
      exact congrArg (· ++ []) (splitBlanks_line one.1.1
        (List.forall_mem_singleton.mpr two.1.1))
    rw [splitQuoted, line, cut front, cut quote, pieceWords, words]
    rfl

theorem terminal_lawful : terminal.Lawful where
  inet6 := smallInet6_inverse
  splits := splitQuoted_splits
  names name addrs one := by
    simp only [terminal, numericHosts] at one
    split at one
    · split_ifs at one with same
      exact same ▸ bare_inetNtoa _
    · cases one
  distinct name other addrs others one two different addr mem there := by
    simp only [terminal, numericHosts] at one two
    split at one
    swap
    · cases one
    split at two
    swap
    · cases two
    split_ifs at one two with same same'
    cases one
    cases two
    exact different (same.symm.trans ((congrArg inetNtoa ((List.mem_singleton.mp mem).symm.trans
      (List.mem_singleton.mp there))).trans same'))

/-- A value of zero bytes. -/
def ConfigType.zero : (type : ConfigType) → type.Val
  | .int => (0 : Int32)
  | .string => ([] : Word)
  | .unsignedLong => (0 : UInt64)
  | .short => (0 : UInt16)
  | .bool => false
  | .ipv4 => (0 : UInt32)
  | .ipv6 => (0 : In6Addr)

def zeroConfig : Config where
  value i := i.type.zero
  asNumber := 0
  neighbour := List.replicate bgpNumPeers {}

theorem zeroConfig_fresh : zeroConfig.Fresh := by
  have stands {size : Nat} (some : 0 < size) : ∀ type : ConfigType, Stands size type type.zero
    | .string => ⟨some, List.not_mem_nil, List.not_mem_nil⟩
    | .int => trivial
    | .unsignedLong => trivial
    | .short => trivial
    | .bool => trivial
    | .ipv4 => trivial
    | .ipv6 => trivial
  exact ⟨rfl, rfl, fun i => stands (size_pos i) i.type⟩

/-- A neighbour with times and a source of its own. -/
def timedCommands : List Command :=
  [.routerBgp false ["64512".toList],
    .neighbour ["10.0.0.2".toList, "remote-as".toList, "64513".toList],
    .neighbour ["10.0.0.2".toList, "timers".toList, "30".toList, "90".toList],
    .neighbour ["10.0.0.2".toList, "update-source".toList, "10.0.0.1".toList]]

/-- A neighbour with a source of its own. -/
def sourceCommands : List Command :=
  [.routerBgp false ["64512".toList],
    .neighbour ["10.0.0.2".toList, "remote-as".toList, "64513".toList],
    .neighbour ["10.0.0.2".toList, "update-source".toList, "10.0.0.1".toList]]

end L2tpns.Settings
