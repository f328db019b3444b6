import Mathlib.Logic.Function.Basic
import Mathlib.Data.List.FinRange
import L2tpns.Settings.Values

/-! # Commands that change the configuration

The configuration of values and BGP neighbours, and the commands `set`, `router bgp`,
`neighbour` and `no neighbour`. The conversions between texts and values that they use come from
`L2tpns.Settings.store`.
-/

namespace L2tpns.Settings

open Foundation.CText Cli

/-- An index of `config_values`. -/
abbrev Setting := Fin configValues.length

def Setting.key (i : Setting) : Word := (configValues.get i).key.toList
def Setting.type (i : Setting) : ConfigType := (configValues.get i).type
def Setting.size (i : Setting) : Nat := (configValues.get i).size

/-- An element of `config->neighbour`; one without a name is free. -/
structure Neighbour where
  name : Word := []
  as : UInt16 := 0
  keepalive : Int := 0
  hold : Int := 0
  updateSource : UInt32 := 0
deriving DecidableEq, Repr

/-- `BGP_NUM_PEERS` -/
def bgpNumPeers : Nat := 2

/-- `BGP_KEEPALIVE_TIME` -/
def bgpKeepaliveTime : Int := 60

/-- `BGP_HOLD_TIME` -/
def bgpHoldTime : Int := 180

/-- What the commands change in `config`. -/
structure Config where
  value : (i : Setting) → i.type.Val
  asNumber : UInt16
  neighbour : List Neighbour

/-- What the commands call outside the program: the conversions of IPv6 addresses, the IPv4
addresses of a host, and the words of a line. -/
structure Surroundings where
  inet6 : Inet6
  gethostbyname : Word → Option (List UInt32)
  splitLine : List Char → List Word

variable (env : Surroundings)

def Config.setValue (config : Config) (i : Setting) (v : i.type.Val) : Config :=
  { config with value := Function.update config.value i v }

/-- `cmd_set`: the configuration and what is printed. -/
def cmdSet (config : Config) (argv : List Word) : Config × Option String :=
  if cliHelpRequested argv then (config, none)
  else
    match argv with
    | [key, value] =>
        match (List.finRange configValues.length).find? fun i => Setting.key i = key with
        | some i =>
            (config.setValue i (store env.inet6 (Setting.size i) (Setting.type i) value
                (config.value i)),
              some (quoting (quoting "Setting" key ++ " to") value))
        | none => (config, some (quoting "Unknown variable" key))
    | _ => (config, some "Specify variable and value")

/-- `cmd_router_bgp` -/
def cmdRouterBgp (bgpConfigured : Bool) (config : Config) (argv : List Word) :
    Config × Option String :=
  if cliHelpRequested argv then (config, none)
  else
    match argv with
    | [word] =>
        if atoi word < 1 ∨ 65535 < atoi word then
          (config, some "Invalid autonomous system number")
        else if bgpConfigured ∧ atoi word ≠ config.asNumber.toNat then
          (config, some "Can't change local AS on a running system")
        else ({ config with asNumber := UInt16.ofInt (atoi word) }, none)
    | _ => (config, some "Invalid autonomous system number")

/-- The loop of `find_bgp_neighbour` from slot `i` on, with the first free slot so far. -/
def scanNeighbours (addrs : List UInt32) (name : Word) :
    List Neighbour → Nat → Option Nat → Option Nat
  | [], _, new => new
  | neighbour :: rest, i, new =>
      if neighbour.name = [] then scanNeighbours addrs name rest (i + 1) (new.or (some i))
      else if name = neighbour.name then some i
      else
        match env.gethostbyname neighbour.name with
        | none => scanNeighbours addrs name rest (i + 1) new
        | some others =>
            if others.any (· ∈ (addrs.take 4).takeWhile (· ≠ 0)) then some i
            else scanNeighbours addrs name rest (i + 1) new

/-- `find_bgp_neighbour`; the outer `none` is -2, the inner one -1. -/
def findBgpNeighbour (neighbours : List Neighbour) (name : Word) : Option (Option Nat) :=
  (env.gethostbyname name).map fun addrs => scanNeighbours env addrs name neighbours 0 none

def Config.setNeighbour (config : Config) (i : Nat) (neighbour : Neighbour) : Config :=
  { config with neighbour := config.neighbour.set i neighbour }

/-- `neighbour remote-as` on a slot. -/
def remoteAs (neighbour : Neighbour) (name : Word) (as : Int) : Neighbour :=
  if neighbour.name = [] then
    { name := name.take 63, as := UInt16.ofInt as, keepalive := -1, hold := -1, updateSource := 0 }
  else { neighbour with as := UInt16.ofInt as }

/-- `neighbour timers` on a slot; a default time is kept as -1. -/
def setTimers (neighbour : Neighbour) (keepalive hold : Int) : Neighbour :=
  { neighbour with
    keepalive := if keepalive = bgpKeepaliveTime then -1 else keepalive
    hold := if hold = bgpHoldTime then -1 else hold }

/-- `cmd_router_bgp_neighbour` -/
def cmdRouterBgpNeighbour (config : Config) (argv : List Word) : Config × Option String :=
  if cliHelpRequested argv then (config, none)
  else
    match argv with
    | name :: what :: first :: rest =>
        match findBgpNeighbour env config.neighbour name with
        | none => (config, some "Invalid neighbour")
        | some none => (config, some "Too many neighbours (max 2)")
        | some (some i) =>
            let neighbour := config.neighbour.getD i {}
            if isMatch "remote-as" what then
              if atoi first < 0 ∨ 65535 < atoi first then
                (config, some "Invalid autonomous system number")
              else (config.setNeighbour i (remoteAs neighbour name (atoi first)), none)
            else if isMatch "update-source" what then
              if neighbour.name = [] then (config, some "Specify remote-as first")
              else
                match inetAton first with
                | none => (config, some (quoting "Cannot parse IP" first))
                | some addr =>
                    (config.setNeighbour i { neighbour with updateSource := addr }, none)
            else
              match rest with
              | [second] =>
                  if ¬ isMatch "timers" what then (config, some "Invalid arguments")
                  else if neighbour.name = [] then (config, some "Specify remote-as first")
                  else if atoi first < 1 ∨ 65535 < atoi first then
                    (config, some "Invalid keepalive time")
                  else if atoi second < 3 ∨ 65535 < atoi second then
                    (config, some "Invalid hold time")
                  else
                    (config.setNeighbour i (setTimers neighbour (atoi first) (atoi second)), none)
              | _ => (config, some "Invalid arguments")
    | _ => (config, some "Invalid arguments")

/-- `cmd_router_bgp_no_neighbour` -/
def cmdRouterBgpNoNeighbour (config : Config) (argv : List Word) : Config × Option String :=
  if cliHelpRequested argv then (config, none)
  else
    match argv with
    | [name] =>
        match findBgpNeighbour env config.neighbour name with
        | none => (config, some "Invalid neighbour")
        | some none => (config, some ("Neighbour " ++ String.ofList name ++ " not configured"))
        | some (some i) =>
            if (config.neighbour.getD i {}).name = [] then
              (config, some ("Neighbour " ++ String.ofList name ++ " not configured"))
            else (config.setNeighbour i {}, none)
    | _ => (config, some "Specify a BGP neighbour")

/-- A command. The one for the local AS sees whether BGP is running. -/
inductive Command
  | set (argv : List Word)
  | routerBgp (bgpConfigured : Bool) (argv : List Word)
  | neighbour (argv : List Word)
  | noNeighbour (argv : List Word)

/-- One command. Those on neighbours belong to the configuration mode of `router bgp`, which is
entered with a local AS. -/
def step (config : Config) : Command → Config
  | .set argv => (cmdSet env config argv).1
  | .routerBgp bgpConfigured argv => (cmdRouterBgp bgpConfigured config argv).1
  | .neighbour argv =>
      if config.asNumber = 0 then config else (cmdRouterBgpNeighbour env config argv).1
  | .noNeighbour argv =>
      if config.asNumber = 0 then config else (cmdRouterBgpNoNeighbour env config argv).1

/-- A string is set to a text without quotes and newlines. -/
def Command.Clean : Command → Prop
  | .set [key, value] =>
      ∀ i : Setting, i.key = key → i.type = .string → '"' ∉ value ∧ '\n' ∉ value
  | _ => True

end L2tpns.Settings
