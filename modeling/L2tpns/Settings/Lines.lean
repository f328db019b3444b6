import L2tpns.Settings.Commands

/-! # The lines of a saved configuration

The lines that `cmd_show_run` prints about values and BGP neighbours, how a line is read, and
what is assumed of the surroundings (`L2tpns.Settings.Surroundings.Lawful`).
-/

namespace L2tpns.Settings

open Foundation.CText Cli

variable (env : Surroundings)

/-- The line about a value. -/
def settingLine (config : Config) (i : Setting) : List Char :=
  "set ".toList ++ i.key ++ " ".toList ++
    if i.type = .string then
      "\"".toList ++ text env.inet6 i.size i.type (config.value i) ++ "\"".toList
    else text env.inet6 i.size i.type (config.value i)

/-- Both times have their default. -/
def Neighbour.Default (neighbour : Neighbour) : Prop :=
  neighbour.keepalive = -1 ∧ neighbour.hold = -1

instance (neighbour : Neighbour) : Decidable neighbour.Default :=
  inferInstanceAs (Decidable (_ ∧ _))

/-- The keepalive time that is printed. -/
def Neighbour.k (neighbour : Neighbour) : Int :=
  if neighbour.keepalive = -1 then bgpKeepaliveTime else neighbour.keepalive

/-- The hold time that is printed. -/
def Neighbour.h (neighbour : Neighbour) : Int :=
  if neighbour.hold = -1 then bgpHoldTime else neighbour.hold

/-- The lines about a neighbour. Where both times have their default the loop goes on to the next
neighbour, before it comes to the source. -/
def neighbourLines (neighbour : Neighbour) : List (List Char) :=
  let start := " neighbour ".toList ++ neighbour.name
  (start ++ " remote-as ".toList ++ decimal neighbour.as.toNat) ::
    if neighbour.Default then []
    else
      (start ++ " timers ".toList ++ decimalInt neighbour.k ++ " ".toList ++
          decimalInt neighbour.h) ::
        if neighbour.updateSource ≠ 0 then
          [start ++ " update-source ".toList ++ inetNtoa neighbour.updateSource]
        else []

def Config.named (config : Config) : List Neighbour :=
  config.neighbour.filter fun neighbour => neighbour.name ≠ []

/-- `cmd_show_run` on values and BGP. Its comments, and its lines about plugins and filters,
change neither. -/
def showRun (config : Config) : List (List Char) :=
  (List.finRange configValues.length).map (settingLine env config) ++
    if config.asNumber = 0 then []
    else
      ("router bgp ".toList ++ decimal config.asNumber.toNat) ::
        config.named.flatMap neighbourLines

/-- The command of a line, on a system where BGP is not running yet. -/
def command? : List Word → Option Command
  | [] => none
  | word :: argv =>
      if word = "set".toList then some (.set argv)
      else if word = "router".toList ∧ argv.head? = some "bgp".toList then
        some (.routerBgp false argv.tail)
      else if word = "neighbour".toList then some (.neighbour argv)
      else if word = "no".toList ∧ argv.head? = some "neighbour".toList then
        some (.noNeighbour argv.tail)
      else none

def readLine (config : Config) (line : List Char) : Config :=
  match command? (env.splitLine line) with
  | some command => step env config command
  | none => config

/-- A word that stands in a line without quotes. -/
def Bare (word : Word) : Prop := Plain word ∧ '"' ∉ word

instance (word : Word) : Decidable (Bare word) := inferInstanceAs (Decidable (_ ∧ _))

/-- Lines are split at blanks, and words in double quotes are kept together. -/
structure SplitsLines (split : List Char → List Word) : Prop where
  words : ∀ first rest, Bare first → (∀ word ∈ rest, Bare word) →
    split (first ++ spaced rest) = first :: rest
  indented : ∀ line, split (' ' :: line) = split line
  quoted : ∀ first second value, Bare first → Bare second → '"' ∉ value → '\n' ∉ value →
    split (first ++ spaced [second] ++ " \"".toList ++ value ++ "\"".toList) =
      [first, second, value]

/-- **What is assumed of the surroundings.** Addresses are printed as they are read, lines are
split as described, hosts have names without blanks and different hosts have different
addresses. -/
structure Surroundings.Lawful : Prop where
  inet6 : env.inet6.Inverse
  splits : SplitsLines env.splitLine
  names : ∀ name addrs, env.gethostbyname name = some addrs → Bare name
  distinct : ∀ name other addrs others, env.gethostbyname name = some addrs →
    env.gethostbyname other = some others → name ≠ other → ∀ addr ∈ addrs, addr ∉ others

end L2tpns.Settings
