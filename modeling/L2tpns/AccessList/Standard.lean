import L2tpns.AccessList.Filter
import Mathlib.Data.List.Find

/-! # Standard access lists

A standard list has sources only. Its rules leave their destination at the address 0.0.0.0
without wildcard bits, which the matcher takes for a destination that is asked for. A standard
list therefore decides like the extended list of the rules `ip SOURCE any` only on packets to
0.0.0.0, and on packets that the extended list drops
(`L2tpns.AccessList.standard_iff`).
-/

namespace L2tpns.AccessList

open Foundation.CText Cli

/-- A rule command and its arguments. -/
abbrev Call := Word × List Word

/-- The list that rule commands build in a cleared filter. -/
def build (extended : Bool) (calls : List Call) : Option (List Rule) :=
  calls.foldlM (fun slots call =>
    (cmdIpAccessListRule (fun _ => false) extended slots call.1 call.2).map Prod.fst)
    (List.replicate maxFilterRules {})

/-- The rules that commands enter, as many as a filter has room for. -/
def entered (extended : Bool) (calls : List Call) : List Rule :=
  (calls.filterMap fun call =>
    enteredRule? (fun _ => false) extended call.1 call.2).eraseDups.take (maxFilterRules - 1)

/-- The arguments of `ip SOURCE any` for the arguments of a standard rule. -/
def extArgv : List Word → List Word
  | [] => []
  | first :: rest =>
      if isMatch "any" first then ["ip".toList, "any".toList, "any".toList]
      else if isMatch "host" first then "ip".toList :: "host".toList :: (rest ++ ["any".toList])
      else
        match rest with
        | [] => ["ip".toList, "host".toList, first, "any".toList]
        | wildcard :: _ => ["ip".toList, first, wildcard, "any".toList]

def extCall (call : Call) : Call := (call.1, extArgv call.2)

/-- A rule with the destination `any`. -/
def Rule.anyDst (rule : Rule) : Rule := { rule with dst := { wild := inaddrBroadcast } }

theorem build_stores (extended : Bool) (calls : List Call) :
    ∃ slots, build extended calls = some slots ∧ Stores slots (entered extended calls) := by
  unfold entered
  rw [← Foundation.RuleBase.foldl_enter]
  induction calls using List.reverseRecOn with
  | nil => exact ⟨_, rfl, stores_nil⟩
  | append_singleton calls call ih =>
      obtain ⟨slots, eq, stores⟩ := ih
      obtain ⟨slots', message, step, stores'⟩ :=
        stores.cmdIpAccessListRule (fun _ => false) extended call.1 call.2
      refine ⟨slots', ?_, ?_⟩
      · rw [build, List.foldlM_append, ← build, eq]
        simp [step]
      · rw [List.filterMap_append, List.foldl_append]
        cases rule : enteredRule? (fun _ => false) extended call.1 call.2 with
        | none | some rule' => simpa [rule] using stores'

theorem accessListRuleExt_source {command : Word} {words : List Word} {ip wild : UInt32}
    (source : ∀ missing, parseAddress missing words = .ok (ip, wild, ["any".toList]))
    (enough : 2 ≤ words.length) :
    accessListRuleExt command ("ip".toList :: words) = .ok (stdRule command ip wild).anyDst := by
  have proto : parseProto "ip".toList = .ok ipprotoIp := by decide
  have any : isMatch "any" "any".toList = true := by decide
  have src (missing : String) :
      parseSide ipprotoIp missing words = .ok ({ ip := ip, wild := wild }, ["any".toList]) := by
    rw [parseSide, source]
    rfl
  have dst (missing : String) :
      parseSide ipprotoIp missing ["any".toList] = .ok ({ wild := inaddrBroadcast }, []) := by
    rw [parseSide, parseAddress.eq_def]
    simp only [any, if_true]
    rfl
  unfold accessListRuleExt
  rw [if_neg (by simp only [List.length_cons]; omega)]
  simp only [proto, bind, Except.bind, src, dst]
  rfl

variable {calls : List Call} {rule : Rule}

/-- The extended parser reads `ip SOURCE any` as the standard rule with any destination. -/
theorem accessListRuleExt_extArgv {command : Word} {argv : List Word}
    (accepted : accessListRuleStd command argv = .ok rule) :
    accessListRuleExt command (extArgv argv) = .ok rule.anyDst := by
  have any : isMatch "any" "any".toList = true := by decide
  have host : isMatch "any" "host".toList = false ∧ isMatch "host" "host".toList = true := by
    decide
  cases argv with
  | nil => cases accepted
  | cons first words =>
      simp only [accessListRuleStd.eq_def] at accepted
      rw [extArgv.eq_def]
      simp only
      split_ifs at accepted ⊢ with anyFirst hostFirst
      · cases accepted
        change _ = Except.ok (stdRule command inaddrAny inaddrBroadcast).anyDst
        refine accessListRuleExt_source (fun missing => ?_) ?_
        · simp only [parseAddress.eq_def, any, if_true]
        · simp
      · rcases words with _ | ⟨addr, _ | _⟩
        · cases accepted
        · obtain ⟨ip, read, accepted⟩ := bind_ok_iff.mp accepted
          cases accepted
          change _ = Except.ok (stdRule command ip inaddrAny).anyDst
          refine accessListRuleExt_source (fun missing => ?_) ?_
          · simp only [parseAddress.eq_def, host.1, host.2, List.cons_append, List.nil_append,
              read]
            rfl
          · simp
        · cases accepted
      · rcases words with _ | ⟨wildcard, _ | _⟩
        · obtain ⟨ip, read, accepted⟩ := bind_ok_iff.mp accepted
          cases accepted
          change _ = Except.ok (stdRule command ip inaddrAny).anyDst
          refine accessListRuleExt_source (fun missing => ?_) ?_
          · simp only [parseAddress.eq_def, host.1, host.2, read]
            rfl
          · simp
        · obtain ⟨ip, read, accepted⟩ := bind_ok_iff.mp accepted
          obtain ⟨wild, readWild, accepted⟩ := bind_ok_iff.mp accepted
          cases accepted
          change _ = Except.ok (stdRule command ip wild).anyDst
          refine accessListRuleExt_source (fun missing => ?_) ?_
          · simp only [parseAddress.eq_def, anyFirst, hostFirst, read, readWild]
            rfl
          · simp
        · cases accepted

/-- The standard parser accepts the arguments of every command. -/
def AllAccepted (calls : List Call) : Prop :=
  ∀ call ∈ calls, ∃ rule, accessListRuleStd call.1 call.2 = .ok rule

theorem enteredRule?_std {call : Call} (accepted : accessListRuleStd call.1 call.2 = .ok rule) :
    enteredRule? (fun _ => false) false call.1 call.2 = some rule ∧
      enteredRule? (fun _ => false) true (extCall call).1 (extCall call).2 = some rule.anyDst := by
  constructor
  · simp [enteredRule?, accessListRule, accepted]
  · simp [enteredRule?, accessListRule, extCall, accessListRuleExt_extArgv accepted]

theorem entered_std_mem (mem : rule ∈ entered false calls) :
    ∃ command ip wild, rule = stdRule command ip wild := by
  have mem := List.mem_eraseDups.mp (List.mem_of_mem_take mem)
  obtain ⟨call, -, eq⟩ := List.mem_filterMap.mp mem
  unfold enteredRule? accessListRule at eq
  cases parsed : accessListRuleStd call.1 call.2 with
  | error message => simp [parsed] at eq
  | ok accepted =>
      obtain ⟨ip, wild, std⟩ := accessListRuleStd_ok parsed
      simp only [Bool.false_eq_true, if_false, parsed, Option.some.injEq] at eq
      exact ⟨call.1, ip, wild, eq ▸ std⟩

theorem entered_extCall (accepted : AllAccepted calls) :
    entered true (calls.map extCall) = (entered false calls).map Rule.anyDst := by
  have renamed : (calls.map extCall).filterMap (fun call =>
      enteredRule? (fun _ => false) true call.1 call.2) =
        (calls.filterMap fun call =>
          enteredRule? (fun _ => false) false call.1 call.2).map Rule.anyDst := by
    rw [List.filterMap_map, List.map_filterMap]
    refine List.filterMap_congr fun call mem => ?_
    obtain ⟨rule, ok⟩ := accepted call mem
    have ⟨std, ext⟩ := enteredRule?_std ok
    rw [Function.comp_apply, std, ext]
    rfl
  unfold entered
  rw [renamed, Foundation.RuleBase.eraseDups_map, List.map_take]
  intro a aMem b bMem same
  have std (rule : Rule) (mem : rule ∈ calls.filterMap fun call =>
      enteredRule? (fun _ => false) false call.1 call.2) : rule.dst = {} := by
    obtain ⟨call, there, eq⟩ := List.mem_filterMap.mp mem
    obtain ⟨parsed, ok⟩ := accepted call there
    obtain ⟨ip, wild, std⟩ := accessListRuleStd_ok ok
    rw [(enteredRule?_std ok).1, std] at eq
    cases eq
    rfl
  have back (rule : Rule) (none : rule.dst = {}) : { rule.anyDst with dst := {} } = rule := by
    rw [Rule.anyDst, ← none]
  rw [← back a (std a aMem), ← back b (std b bMem), same]

/-- **The first of the sources that covers the address is permitted.** -/
def SourcePermits (calls : List Call) (src : UInt32) : Prop :=
  ∃ rule, (entered false calls).find? (fun rule => rule.src.Covers src) = some rule ∧
    rule.action = .permit

theorem stdRule_matches (command : Word) (ip wild : UInt32) (header : Header) :
    (stdRule command ip wild).Matches header ↔
      (stdRule command ip wild).src.Covers header.srcIp ∧ header.dstIp = inaddrAny := by
  have none : (~~~(0 : UInt32)) = -1 := by decide
  simp only [Rule.Matches, stdRule, Side.Covers, Ports.Allow, Flags.Allow, Rule.layer4, inaddrAny,
    none]
  simp

theorem anyDst_matches (command : Word) (ip wild : UInt32) (header : Header) :
    (stdRule command ip wild).anyDst.Matches header ↔
      (stdRule command ip wild).src.Covers header.srcIp := by
  have none : (~~~(0xffffffff : UInt32)) = 0 := by decide
  simp only [Rule.Matches, Rule.anyDst, stdRule, Side.Covers, Ports.Allow, Flags.Allow,
    Rule.layer4, inaddrBroadcast]
  simp [none]

/-- What a standard list lets through. -/
theorem permits_std {buf : List UInt8} :
    Permits (entered false calls) buf ↔
      Complete buf ∧ longAt buf 16 = inaddrAny ∧ SourcePermits calls (longAt buf 12) := by
  refine and_congr_right fun complete => ?_
  have meaning : ∀ rule ∈ entered false calls, (rule.Matches (headerOf buf) ↔
      rule.src.Covers (longAt buf 12) ∧ longAt buf 16 = inaddrAny) := by
    intro rule mem
    obtain ⟨command, ip, wild, rfl⟩ := entered_std_mem mem
    exact stdRule_matches command ip wild (headerOf buf)
  by_cases nowhere : longAt buf 16 = inaddrAny
  · rw [List.find?_congr fun rule mem => decide_eq_decide.mpr
      ((meaning rule mem).trans (and_iff_left nowhere))]
    exact (and_iff_right nowhere).symm
  · have none : (entered false calls).find? (fun rule => rule.Matches (headerOf buf)) = none :=
      List.find?_eq_none.mpr fun rule mem => by simp [meaning rule mem, nowhere]
    rw [none]
    simp [nowhere]

/-- What the extended list lets through. -/
theorem permits_ext (accepted : AllAccepted calls) {buf : List UInt8} :
    Permits (entered true (calls.map extCall)) buf ↔
      Complete buf ∧ SourcePermits calls (longAt buf 12) := by
  refine and_congr_right fun complete => ?_
  rw [entered_extCall accepted, List.find?_map]
  have agree : ∀ rule ∈ entered false calls,
      ((fun rule : Rule => decide (rule.Matches (headerOf buf))) ∘ Rule.anyDst) rule =
        decide (rule.src.Covers (longAt buf 12)) := by
    intro rule mem
    obtain ⟨command, ip, wild, rfl⟩ := entered_std_mem mem
    exact decide_eq_decide.mpr (anyDst_matches command ip wild (headerOf buf))
  rw [List.find?_congr agree]
  constructor
  · rintro ⟨rule, found, permit⟩
    obtain ⟨std, which, rfl⟩ := Option.map_eq_some_iff.mp found
    exact ⟨std, which, permit⟩
  · rintro ⟨std, found, permit⟩
    exact ⟨std.anyDst, by rw [found]; rfl, permit⟩

/-- **When a standard list decides like the extended one.** Only on packets to 0.0.0.0, and on
packets that are no complete IPv4 packets or that the sources do not permit. -/
theorem standard_iff {calls : List Call} (accepted : AllAccepted calls) (buf : List UInt8) :
    ∃ std ext std' ext' stdVerdict extVerdict,
      build false calls = some std ∧ ipFilter buf std = some (stdVerdict, std') ∧
        build true (calls.map extCall) = some ext ∧ ipFilter buf ext = some (extVerdict, ext') ∧
        (stdVerdict = extVerdict ↔
          longAt buf 16 = inaddrAny ∨ ¬ (Complete buf ∧ SourcePermits calls (longAt buf 12))) := by
  obtain ⟨std, builtStd, storesStd⟩ := build_stores false calls
  obtain ⟨ext, builtExt, storesExt⟩ := build_stores true (calls.map extCall)
  obtain ⟨std', stdVerdict, ranStd, -, stdIff⟩ := ipFilter_stores storesStd buf
  obtain ⟨ext', extVerdict, ranExt, -, extIff⟩ := ipFilter_stores storesExt buf
  refine ⟨std, ext, std', ext', stdVerdict, extVerdict, builtStd, ranStd, builtExt, ranExt, ?_⟩
  rw [permits_std] at stdIff
  rw [permits_ext accepted] at extIff
  rw [Bool.eq_iff_iff, stdIff, extIff]
  tauto

def somePacket : List UInt8 :=
  [0x45, 0, 0, 20, 0, 0, 0, 0, 64, 1, 0, 0, 10, 0, 0, 1, 1, 2, 3, 4]

/-- The list `permit any` and its extended form do not decide alike. -/
theorem permitAny_denies :
    ¬ ∀ (calls : List Call), AllAccepted calls → ∀ (buf : List UInt8), Complete buf →
      ((build false calls).bind fun std => (ipFilter buf std).map Prod.fst) =
        (build true (calls.map extCall)).bind fun ext => (ipFilter buf ext).map Prod.fst := by
  intro same
  have accepted : AllAccepted [("permit".toList, ["any".toList])] := by
    intro call mem
    obtain rfl := List.mem_singleton.mp mem
    exact ⟨_, rfl⟩
  exact absurd (same _ accepted somePacket (by decide)) (by decide)

theorem permitAny_exact :
    ∃ std ext std' ext' stdVerdict extVerdict,
      build false [("deny".toList, ["any".toList])] = some std ∧
        ipFilter somePacket std = some (stdVerdict, std') ∧
        build true ([("deny".toList, ["any".toList])].map extCall) = some ext ∧
        ipFilter somePacket ext = some (extVerdict, ext') ∧
        (stdVerdict = extVerdict ↔ longAt somePacket 16 = inaddrAny ∨
          ¬ (Complete somePacket ∧
            SourcePermits [("deny".toList, ["any".toList])] (longAt somePacket 12))) :=
  standard_iff (fun call mem => by
    obtain rfl := List.mem_singleton.mp mem
    exact ⟨_, rfl⟩) somePacket

end L2tpns.AccessList
