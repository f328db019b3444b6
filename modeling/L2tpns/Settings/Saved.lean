import L2tpns.Settings.Runs

/-! # Saved lines as commands

Reading the lines of a configuration runs the commands of its values and neighbours
(`L2tpns.Settings.read_showRun`).
-/

namespace L2tpns.Settings

open Foundation.CText Cli

variable {env : Surroundings}

def Config.text (config : Config) (env : Surroundings) (i : Setting) : Word :=
  Settings.text env.inet6 i.size i.type (config.value i)

def settingCommand (env : Surroundings) (config : Config) (i : Setting) : Command :=
  .set [i.key, config.text env i]

/-- The commands of the lines about a neighbour. -/
def neighbourCommands (neighbour : Neighbour) : List Command :=
  .neighbour [neighbour.name, "remote-as".toList, decimal neighbour.as.toNat] ::
    if neighbour.Default then []
    else
      .neighbour [neighbour.name, "timers".toList, decimalInt neighbour.k,
          decimalInt neighbour.h] ::
        if neighbour.updateSource ≠ 0 then
          [.neighbour [neighbour.name, "update-source".toList, inetNtoa neighbour.updateSource]]
        else []

/-- The commands of the lines of a configuration. -/
def savedCommands (env : Surroundings) (config : Config) : List Command :=
  (List.finRange configValues.length).map (settingCommand env config) ++
    if config.asNumber = 0 then []
    else
      .routerBgp false [decimal config.asNumber.toNat] :: config.named.flatMap neighbourCommands

theorem digit_ne_quote : ¬ '"'.isDigit := by decide

theorem bare_decimal (n : Nat) : Bare (decimal n) :=
  ⟨plain_decimal n, fun mem => digit_ne_quote (decimal_isDigit mem)⟩

theorem bare_decimalInt (i : Int) : Bare (decimalInt i) := by
  have ⟨⟨_, mark⟩, quote⟩ := bare_decimal i.natAbs
  refine ⟨⟨isWord_decimalInt i, ?_⟩, ?_⟩
  all_goals
    unfold decimalInt
    split
  · simpa using mark
  · exact mark
  · simpa using quote
  · exact quote

theorem bare_inetNtoa (addr : UInt32) : Bare (inetNtoa addr) := by
  refine ⟨plain_inetNtoa addr, fun mem => ?_⟩
  simp only [inetNtoa, List.append_assoc, List.cons_append, List.mem_append, List.mem_cons] at mem
  rcases mem with digit | dot | digit | dot | digit | dot | digit
  all_goals first | exact digit_ne_quote (decimal_isDigit digit) | exact absurd dot (by decide)

theorem bare_key (i : Setting) : Bare i.key := by
  have all : ∀ descriptor ∈ configValues, Bare descriptor.key.toList := by decide +kernel
  exact all _ (List.get_mem configValues i)

theorem bare_text (lawful : env.Lawful) (size : Nat) :
    ∀ (type : ConfigType) (v : type.Val), type ≠ .string → Bare (text env.inet6 size type v)
  | .string, _, other => absurd rfl other
  | .int, v, _ => bare_decimalInt v.toInt
  | .unsignedLong, v, _ => bare_decimal (UInt64.toNat v)
  | .short, v, _ => bare_decimal (UInt16.toNat v)
  | .ipv4, v, _ => bare_inetNtoa v
  | .ipv6, v, _ => ⟨lawful.inet6.plain v, lawful.inet6.noQuote v⟩
  | .bool, v, _ => by
      simp only [text]
      cases v <;> decide

theorem text_string (size : Nat) :
    ∀ (type : ConfigType) (v : type.Val), type = .string → Stands size type v →
      '"' ∉ text env.inet6 size type v ∧ '\n' ∉ text env.inet6 size type v
  | .string, _, _, stands =>
      ⟨fun mem => stands.2.1 (List.mem_of_mem_take mem),
        fun mem => stands.2.2 (List.mem_of_mem_take mem)⟩

theorem bare_set : Bare "set".toList := by decide
theorem bare_router : Bare "router".toList := by decide
theorem bare_bgp : Bare "bgp".toList := by decide
theorem bare_neighbour : Bare "neighbour".toList := by decide
theorem bare_remoteAs : Bare "remote-as".toList := by decide
theorem bare_timers : Bare "timers".toList := by decide
theorem bare_updateSource : Bare "update-source".toList := by decide

theorem command?_set (argv : List Word) : command? ("set".toList :: argv) = some (.set argv) := rfl

theorem command?_routerBgp (argv : List Word) :
    command? ("router".toList :: "bgp".toList :: argv) = some (.routerBgp false argv) := rfl

theorem command?_neighbour (argv : List Word) :
    command? ("neighbour".toList :: argv) = some (.neighbour argv) := rfl

theorem readLine_setting (lawful : env.Lawful) {saved : Config} (ok : saved.Ok) (config : Config)
    (i : Setting) :
    readLine env config (settingLine env saved i) =
      step env config (settingCommand env saved i) := by
  have words : env.splitLine (settingLine env saved i) =
      ["set".toList, i.key, saved.text env i] := by
    have opening : "set ".toList = "set".toList ++ [' '] := rfl
    have blank : " ".toList = [' '] := rfl
    have quoteMark : " \"".toList = ' ' :: "\"".toList := rfl
    unfold settingLine Config.text
    by_cases string : i.type = .string
    · have ⟨quote, newline⟩ :=
        @text_string env i.size i.type (saved.value i) string (ok.stands i)
      have line := lawful.splits.quoted _ i.key _ bare_set (bare_key i) quote newline
      rw [← line, if_pos string, opening, blank, quoteMark]
      simp only [spaced_cons, spaced_nil, List.append_assoc, List.cons_append, List.nil_append]
    · have value := bare_text lawful i.size i.type (saved.value i) string
      have line := lawful.splits.words "set".toList
        [i.key, text env.inet6 i.size i.type (saved.value i)] bare_set (by
          intro word mem
          rcases List.mem_cons.mp mem with rfl | mem
          · exact bare_key i
          · exact List.mem_singleton.mp mem ▸ value)
      rw [← line, if_neg string, opening, blank]
      simp only [spaced_cons, spaced_nil, List.append_assoc, List.cons_append, List.nil_append,
        List.append_nil]
  unfold readLine
  rw [words, command?_set]
  rfl

/-- The line about the local AS is its command. -/
theorem readLine_routerBgp (lawful : env.Lawful) (config : Config) (as : Nat) :
    readLine env config ("router bgp ".toList ++ decimal as) =
      step env config (.routerBgp false [decimal as]) := by
  have words : env.splitLine ("router bgp ".toList ++ decimal as) =
      ["router".toList, "bgp".toList, decimal as] := by
    have opening : "router bgp ".toList = "router".toList ++ ' ' :: "bgp".toList ++ [' '] := rfl
    have line := lawful.splits.words "router".toList ["bgp".toList, decimal as] bare_router (by
      intro word mem
      rcases List.mem_cons.mp mem with eq | mem
      · exact eq ▸ bare_bgp
      · exact List.mem_singleton.mp mem ▸ bare_decimal as)
    rw [← line, opening]
    simp only [spaced_cons, spaced_nil, List.append_assoc, List.cons_append, List.nil_append,
      List.append_nil]
  unfold readLine
  rw [words, command?_routerBgp]

/-- A line about a neighbour is a command about it. -/
theorem readLine_neighbour (lawful : env.Lawful) {name : Word} (bare : Bare name) (config : Config)
    {words : List Word} (are : ∀ word ∈ words, Bare word) :
    readLine env config (" neighbour ".toList ++ name ++ spaced words) =
      step env config (.neighbour (name :: words)) := by
  have split : env.splitLine (" neighbour ".toList ++ name ++ spaced words) =
      "neighbour".toList :: name :: words := by
    have opening : " neighbour ".toList = ' ' :: ("neighbour".toList ++ [' ']) := rfl
    have line := lawful.splits.words "neighbour".toList (name :: words) bare_neighbour (by
      intro word mem
      rcases List.mem_cons.mp mem with rfl | mem
      · exact bare
      · exact are word mem)
    rw [← line, opening, List.cons_append, List.cons_append, lawful.splits.indented]
    simp only [spaced_cons, List.append_assoc, List.cons_append, List.nil_append]
  unfold readLine
  rw [split, command?_neighbour]

/-- The lines about a neighbour are its commands. -/
theorem read_neighbour (lawful : env.Lawful) {neighbour : Neighbour} (bare : Bare neighbour.name)
    (config : Config) :
    (neighbourLines neighbour).foldl (readLine env) config =
      (neighbourCommands neighbour).foldl (step env) config := by
  have two {first second : Word} (one : Bare first) (other : Bare second) :
      ∀ word ∈ [first, second], Bare word := by
    intro word mem
    rcases List.mem_cons.mp mem with rfl | mem
    · exact one
    · exact List.mem_singleton.mp mem ▸ other
  have remoteAs (config : Config) := readLine_neighbour lawful bare config
    (two bare_remoteAs (bare_decimal neighbour.as.toNat))
  have source (config : Config) := readLine_neighbour lawful bare config
    (two bare_updateSource (bare_inetNtoa neighbour.updateSource))
  have timers (config : Config) := @readLine_neighbour env lawful _ bare config
    ["timers".toList, decimalInt neighbour.k, decimalInt neighbour.h] (by
      intro word mem
      rcases List.mem_cons.mp mem with eq | mem
      · exact eq ▸ bare_timers
      · exact two (bare_decimalInt _) (bare_decimalInt _) word mem)
  have remoteAsText : " remote-as ".toList = ' ' :: "remote-as".toList ++ [' '] := rfl
  have timersText : " timers ".toList = ' ' :: "timers".toList ++ [' '] := rfl
  have sourceText : " update-source ".toList = ' ' :: "update-source".toList ++ [' '] := rfl
  have blank : " ".toList = [' '] := rfl
  simp only [spaced_cons, spaced_nil, List.append_nil, List.cons_append] at remoteAs source timers
  unfold neighbourLines neighbourCommands
  simp only [remoteAsText, timersText, sourceText, blank, List.append_assoc, List.cons_append,
    List.nil_append, List.foldl_cons] at remoteAs source timers ⊢
  rw [remoteAs]
  split_ifs
  · rfl
  · rw [List.foldl_cons, timers, List.foldl_cons, List.foldl_cons, source]
    rfl
  · rw [List.foldl_cons, timers]
    rfl

/-- **Reading a saved configuration runs its commands.** -/
theorem read_showRun (lawful : env.Lawful) {saved : Config} (ok : saved.Ok) (config : Config) :
    (showRun env saved).foldl (readLine env) config =
      (savedCommands env saved).foldl (step env) config := by
  have settings (settings : List Setting) (config : Config) :
      (settings.map (settingLine env saved)).foldl (readLine env) config =
        (settings.map (settingCommand env saved)).foldl (step env) config := by
    rw [List.foldl_map, List.foldl_map]
    congr 1
    funext config i
    exact readLine_setting lawful ok config i
  have neighbours (neighbours : List Neighbour) (bare : ∀ n ∈ neighbours, Bare n.name)
      (config : Config) :
      (neighbours.flatMap neighbourLines).foldl (readLine env) config =
        (neighbours.flatMap neighbourCommands).foldl (step env) config := by
    induction neighbours generalizing config with
    | nil => rfl
    | cons n neighbours ih =>
        rw [List.flatMap_cons, List.flatMap_cons, List.foldl_append, List.foldl_append,
          read_neighbour lawful (bare n (by simp)), ih fun m mem => bare m (by simp [mem])]
  have named : ∀ n ∈ saved.named, Bare n.name := fun n mem =>
    (ok.each n (List.mem_filter.mp mem).1 (by simpa using (List.mem_filter.mp mem).2)).bare
  unfold showRun savedCommands
  rw [List.foldl_append, List.foldl_append, settings]
  split_ifs
  · rfl
  · rw [List.foldl_cons, List.foldl_cons, readLine_routerBgp lawful, neighbours _ named]

end L2tpns.Settings
