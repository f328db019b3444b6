import Mathlib.Data.List.TakeWhile
import L2tpns.Ppp.Footprint

/-! # Bounds of PPP packets

The handlers of PPP packets stay inside of what was received, and inside of each option, exactly
if what they do not check is so: that a packet says that it has a header, that options are as long
as what is read of them, that the name and the password of PAP fit, and so on for each of them
(`L2tpns.Footprint.touches_inside_iff`).
-/

namespace L2tpns.Footprint

open Avp (Memory ntohs readBytes)
open L2tp (Access)
open Server

variable {σ : Type} {debug s t l n hl : Nat} {st : State} {memory : Memory}

/-- All that is done is inside of a packet of `l` bytes. -/
def Within (l : Nat) (touches : List Touch) : Prop := ∀ touch ∈ touches, touch.Inside l

/-- The options have at least the length that they should have. -/
def Long (memory : Memory) (least : Nat → Nat) (options : List Nat) : Prop :=
  ∀ o ∈ options, least o ≤ (memory (o + 1)).toNat

/-- The options that are printed. -/
def dumpedOffsets (memory : Memory) : Nat → Nat → Nat → List Nat
  | 0, _, _ => []
  | fuel + 1, o, x =>
      let length := (memory (o + 1)).toNat
      if x ≤ 2 ∨ length < 2 then []
      else o :: dumpedOffsets memory fuel (o + length) (x - length)

/-- The options that are printed fit, and that of a quality protocol has four bytes. -/
def Printable (memory : Memory) (l : Nat) : Prop :=
  4 ≤ l ∧ (memory 0 = configReq ∨ memory 0 = configRej ∨ memory 0 = configAck →
    ∀ o ∈ dumpedOffsets memory (l - 4) 4 (l - 4),
      o + (memory (o + 1)).toNat ≤ l ∧ (memory o = 4 → 6 ≤ (memory (o + 1)).toNat))

/-- An authentication protocol has two bytes, and CHAP has an algorithm. -/
def ackLeast (memory : Memory) (o : Nat) : Nat :=
  if memory o = 3 then if ntohs memory (o + 2) = pppChap then 5 else 4 else 0

/-- The length of an option of a ConfigReq. The algorithm of CHAP is looked at if CHAP may be
used. -/
def requestLeast (st : State) (memory : Memory) (o : Nat) : Nat :=
  match (memory o).toNat with
  | 1 | 17 => 4
  | 2 => 6
  | 3 =>
      if ntohs memory (o + 2) = pppChap ∧ st.config.radiusAuthtypes &&& authChap ≠ 0 then 5 else 4
  | 19 => 3
  | _ => 0

/-- Only the MRRU of a ConfigNak is read without a check. -/
def nakLeast (memory : Memory) (o : Nat) : Nat :=
  if memory 0 = configNak ∧ memory o = 17 then 4 else 0

/-- The options that we ask for; at another one the session is shut down. -/
def nakKnown (memory : Memory) (o : Nat) : Bool := memory o ∈ [1, 3, 5, 17, 18, 19]

/-- Whether the packet is handled beyond its header. -/
def Considered (memory : Memory) (l : Nat) : Prop := 4 ≤ l ∧ ntohs memory 2 ≤ l

/-- The condition for LCP. -/
@[mk_iff] structure LcpSound (debug : Nat) (st : State) (memory : Memory) (l : Nat) : Prop where
  printed : 3 < debug → Printable memory (ntohs memory 2)
  ack : memory 0 = configAck →
    4 ≤ ntohs memory 2 ∧ Long memory (ackLeast memory) (optionsOf memory (ntohs memory 2))
  request : memory 0 = configReq →
    4 ≤ ntohs memory 2 ∧ Long memory (requestLeast st memory) (optionsOf memory (ntohs memory 2))
  refusal : memory 0 = configNak ∨ memory 0 = configRej →
    4 ≤ ntohs memory 2 ∧ Long memory (nakLeast memory)
      ((optionsOf memory (ntohs memory 2)).takeWhile (nakKnown memory))
  echo : memory 0 = echoReq → 8 ≤ l
  other : memory 0 ∉ [configAck, configReq, configNak, configRej, terminateReq, protocolRej,
    echoReq, echoReply, codeRej] → ntohs memory 2 < 65532

/-- The name that a PAP request declares is inside, with the length of the password, and so is
the password; what is too long for its buffer is not read. -/
def PapSound (memory : Memory) (l : Nat) : Prop :=
  let userLength := (memory 4).toNat
  let passLength := (memory (5 + userLength)).toNat
  5 ≤ l ∧ (userLength ≠ 0 ∧ userLength < maxUser →
    6 + userLength ≤ l ∧ (passLength ≠ 0 ∧ passLength < maxUser → 6 + userLength + passLength ≤ l))

/-- A name that is missing is not logged. -/
def ChapSound (debug : Nat) (memory : Memory) : Prop :=
  5 ≤ ntohs memory 2 → memory 4 = 16 → 0 < debug → 21 ≤ ntohs memory 2

/-- The condition for IPCP and IPV6CP. -/
@[mk_iff] structure NetworkSound (memory : Memory) : Prop where
  request : memory 0 = configReq → 4 ≤ ntohs memory 2
  other : memory 0 ∉ [configAck, configReq, terminateReq, codeRej] → ntohs memory 2 < 65532

/-- The condition for CCP. -/
@[mk_iff] structure CcpSound (debug : Nat) (st : State) (s : Nat) (memory : Memory) (l : Nat) :
    Prop where
  early : (st.session s).ppp.phase.code < Phase.network.code → 2 ≤ debug → 1 ≤ l
  code : ¬ (st.session s).ppp.phase.code < Phase.network.code → 1 ≤ l
  closed : ¬ (st.session s).ppp.phase.code < Phase.network.code → memory 0 = configReq →
    (st.session s).ppp.ccp = .closed → 2 ≤ l
  other : ¬ (st.session s).ppp.phase.code < Phase.network.code →
    memory 0 ∉ [configAck, configReq, terminateReq, codeRej] → l % 2 ^ 16 < 65532

/-- The packet has all fields of the pattern, or one that differs before its end. -/
def Settled (pattern : Pattern) (memory : Memory) (l : Nat) : Prop :=
  (∀ field ∈ pattern, field.1 + field.2.length ≤ l) ∨
    ∃ field ∈ pattern, field.1 + field.2.length ≤ l ∧
      readBytes memory field.1 field.2.length ≠ field.2

/-- The condition for IPv6 packets. -/
@[mk_iff] structure Ipv6Sound (st : State) (s : Nat) (memory : Memory) (l : Nat) : Prop where
  source : 24 ≤ l
  solicits : ¬ ipv6Dropped st s memory l → Settled solicitation memory l
  asks : ¬ ipv6Dropped st s memory l → ¬ solicitation.Matches memory → Settled dhcpv6 memory l

def IpcpSound (st : State) (s : Nat) (memory : Memory) (l : Nat) : Prop :=
  Considered memory l → ¬ (st.session s).ppp.phase.code < Phase.network.code → NetworkSound memory

/-- The condition for the packet in a frame. -/
@[mk_iff] structure FramedSound (debug : Nat) (st : State) (s proto : Nat) (memory : Memory)
    (l : Nat) : Prop where
  ipv6 : proto = pppIpv6 → st.config.ipv6Prefix.headD 0 ≠ 0 → (st.session s).die = 0 →
    Ipv6Sound st s memory l
  ipcp : proto = pppIpcp → IpcpSound st s memory l
  ccp : proto = pppCcp → CcpSound debug st s memory l

def FrameSound (debug : Nat) (st : State) (s : Nat) (memory : Memory) (p l : Nat) : Prop :=
  p + protocolBytes memory p ≤ l ∧
    FramedSound debug st s (frameProtocol memory p) (behind memory (p + protocolBytes memory p))
      (l - (p + protocolBytes memory p))

/-- What the handler does not check. -/
def Handler.Sound (debug : Nat) (st : State) (s : Nat) (memory : Memory) (l : Nat) :
    Handler → Prop
  | .processlcp =>
      Considered memory l → (st.session s).die = 0 → LcpSound debug st memory l
  | .processpap =>
      Considered memory l → memory 0 = 1 → (st.session s).ppp.phase = .authenticate →
        PapSound memory l
  | .processchap =>
      let r := (st.sessLocal s).radius
      Considered memory l → memory 0 = 2 → (st.session s).ppp.phase = .authenticate → r ≠ 0 →
        (memory 1).toNat = (st.radius r).id → ChapSound debug memory
  | .processipcp => IpcpSound st s memory l
  | .processipv6cp => (st.session s).ip ≠ 0 → IpcpSound st s memory l
  | .processccp => CcpSound debug st s memory l
  | .processipv6in => Ipv6Sound st s memory l
  | .processmpframe extra => FrameSound debug st s memory (if extra then 4 else 0) l

@[simp] theorem within_nil : Within l [] := by simp [Within]

@[simp] theorem within_cons {touch : Touch} {rest : List Touch} :
    Within l (touch :: rest) ↔ touch.Inside l ∧ Within l rest := by
  simp [Within]

@[simp] theorem within_append {first rest : List Touch} :
    Within l (first ++ rest) ↔ Within l first ∧ Within l rest := by
  simp only [Within, List.mem_append, or_imp, forall_and]

theorem within_ite {condition : Prop} [Decidable condition] {yes no : List Touch} :
    Within l (if condition then yes else no) ↔
      (condition → Within l yes) ∧ (¬ condition → Within l no) := by
  split <;> simp_all

@[simp] theorem bytes_inside {start count : Nat} :
    (Touch.bytes start count).Inside l ↔ start + count ≤ l := by
  simp [Touch.Inside, Access.Inside]

@[simp] theorem difference_inside {whole part : Nat} :
    (Touch.difference whole part).Inside l ↔ part ≤ whole :=
  Iff.rfl

variable {o proto fuel x : Nat}

theorem option_inside {length k count : Nat} (fits : o + length ≤ l) :
    (Touch.option o length (o + k) count).Inside l ↔ k + count ≤ length := by
  simp only [Touch.Inside, Access.Inside]
  omega

theorem queued_within {before after : Answer}
    (fits : o + (memory (o + 1)).toNat ≤ l) : Within l (queued memory before after o) := by
  rw [queued]
  split
  · simpa using (option_inside (k := 0) fits).mpr (Nat.zero_add _).le
  · exact within_nil

theorem shift_within {k : Nat} {touches : List Touch} :
    Within (k + l) (touches.map (Touch.shift k)) ↔ Within l touches := by
  simp only [Within, List.forall_mem_map]
  refine forall₂_congr fun touch _ => ?_
  cases touch <;> simp only [Touch.shift, Touch.Inside, Access.Inside] <;> omega

theorem copied_within (fits : n ≤ l) : Within l (copied st s t proto n) := by
  rw [copied]
  split <;> simp [fits]

theorem sentBack_within {proto : Nat} (some : 1 ≤ l) (fits : n ≤ l) :
    Within l (sentBack st s t proto n) := by
  simp [sentBack, some, copied_within fits]

theorem terminated_within {state : FsmState} (some : 1 ≤ l) (fits : n ≤ l) :
    Within l (terminated st s t proto state n) := by
  cases state <;> simp [terminated, sentBack_within some fits]

theorem header_within : Within l (header debug l) := by
  simp only [header, within_append, within_ite]
  refine ⟨⟨?_, ?_⟩, ?_, ?_⟩ <;> simp

theorem handled_within {refused : Prop} [Decidable refused] {touches : List Touch} :
    Within l (header debug l ++ if refused then [] else touches) ↔
      (¬ refused → Within l touches) := by
  rw [within_append, and_iff_right header_within, within_ite]
  exact and_iff_right fun _ => within_nil

theorem codeRejected_within (fits : n ≤ l) :
    Within l (codeRejected st s n) ↔ n % 2 ^ 16 < 65532 := by
  have room : 4 ≤ min (max (st.session s).mru minMtu) maxEther := by
    simp only [minMtu, maxEther]
    omega
  simp only [codeRejected, within_cons, within_nil, difference_inside, bytes_inside, and_true]
  generalize min (max (st.session s).mru minMtu) maxEther = room at *
  omega

/-- A loop that ends at type 0 stays inside exactly if each option is sound up to the one that it
is left at. -/
theorem touches_within_iff {loop : OptionLoop σ} {known : Nat → Bool} {sound : Nat → Prop}
    (typed : loop.typed = true) (values : ∀ state o, o + (memory (o + 1)).toNat ≤ l →
      (Within l (loop.value state o) ↔ (known o → sound o)))
    (nexts : ∀ state o, (loop.next state o).isSome = known o) {state : σ} (inside : o + x ≤ l) :
    Within l (loop.touches memory fuel o x state) ↔
      ∀ i ∈ (optionOffsets memory fuel o x).takeWhile known, sound i := by
  induction fuel generalizing o x state with
  | zero => simp [OptionLoop.touches, optionOffsets]
  | succ fuel ih =>
      simp only [OptionLoop.touches, optionOffsets, typed, true_and]
      by_cases short : x ≤ 2
      · simp [short]
      have headed : o + 2 ≤ l := by omega
      rw [if_neg short, if_neg short]
      by_cases stops : (memory (o + 1)).toNat = 0 ∨ memory o = 0 ∨ x < (memory (o + 1)).toNat
      · rw [if_pos stops, if_pos stops]
        simp [headed]
      have fits : (memory (o + 1)).toNat ≤ x := by
        simp only [not_or, Nat.not_lt] at stops
        exact stops.2.2
      have value := values state o (by omega)
      have further := nexts state o
      rw [if_neg stops, if_neg stops]
      simp only [true_and, within_cons, within_append, bytes_inside, headed, difference_inside,
        fits, value, List.cons_append]
      cases next : loop.next state o with
      | none =>
          rw [next, Option.isSome_none] at further
          simp [← further]
      | some state =>
          rw [next, Option.isSome_some] at further
          simp only [← further, true_imp_iff, List.takeWhile_cons, ↓reduceIte, List.forall_mem_cons]
          exact and_congr_right fun _ => ih (by omega)

theorem touches_within {loop : OptionLoop σ}
    (values : ∀ state o, o + (memory (o + 1)).toNat ≤ l → Within l (loop.value state o))
    {state : σ} (inside : o + x ≤ l) :
    Within l (loop.touches memory fuel o x state) := by
  induction fuel generalizing o x state with
  | zero => simp [OptionLoop.touches]
  | succ fuel ih =>
      rw [OptionLoop.touches]
      by_cases short : x ≤ 2
      · simp [short]
      have headed : o + 2 ≤ l := by omega
      by_cases stops : (memory (o + 1)).toNat = 0 ∨ (loop.typed ∧ memory o = 0) ∨
          x < (memory (o + 1)).toNat
      · simp [short, stops, headed]
      have fits : (memory (o + 1)).toNat ≤ x := by
        simp only [not_or, Nat.not_lt] at stops
        exact stops.2.2
      simp only [short, stops, ↓reduceIte, within_cons, within_append, bytes_inside, headed,
        difference_inside, fits, values state o (by omega), List.cons_append, true_and]
      cases loop.next state o with
      | none => exact within_nil
      | some state => exact ih (by omega)

theorem run_within_iff {loop : OptionLoop σ} {known : Nat → Bool} {sound : Nat → Prop}
    (typed : loop.typed = true)
    (values : ∀ state o, o + (memory (o + 1)).toNat ≤ l →
      (Within l (loop.value state o) ↔ (known o → sound o)))
    (nexts : ∀ state o, (loop.next state o).isSome = known o) {start : σ} (received : 4 ≤ l)
    (fits : hl ≤ l) :
    Within l (loop.run memory hl start) ↔
      4 ≤ hl ∧ ∀ o ∈ (optionsOf memory hl).takeWhile known, sound o := by
  rw [OptionLoop.run, within_cons, difference_inside, optionsOf]
  have inside : 4 + (hl - 4) ≤ l := by omega
  exact and_congr_right fun _ => touches_within_iff typed values nexts inside

theorem run_within_iff_long {loop : OptionLoop σ} {least : Nat → Nat} (typed : loop.typed = true)
    (values : ∀ state o, o + (memory (o + 1)).toNat ≤ l →
      (Within l (loop.value state o) ↔ least o ≤ (memory (o + 1)).toNat))
    (nexts : ∀ state o, (loop.next state o).isSome = true) {start : σ} (received : 4 ≤ l)
    (fits : hl ≤ l) :
    Within l (loop.run memory hl start) ↔ 4 ≤ hl ∧ Long memory least (optionsOf memory hl) := by
  have all : (optionsOf memory hl).takeWhile (fun _ => true) = optionsOf memory hl :=
    List.takeWhile_eq_self_iff.mpr fun _ _ => rfl
  have sound := @run_within_iff σ l hl memory loop (fun _ => true)
    (fun o => least o ≤ (memory (o + 1)).toNat) typed (by simpa using values) nexts start
    received fits
  rwa [all] at sound

theorem ackLoop_within (received : 4 ≤ l) (fits : hl ≤ l) :
    Within l ((ackLoop memory).run memory hl ()) ↔
      4 ≤ hl ∧ Long memory (ackLeast memory) (optionsOf memory hl) := by
  refine run_within_iff_long rfl (fun _ o inside => ?_) (fun _ _ => rfl) received fits
  have apart : pppChap ≠ pppPap := by decide
  simp only [ackLoop, ackLeast, within_ite]
  by_cases auth : memory o = 3
  · by_cases chap : ntohs memory (o + 2) = pppChap
    · simp only [auth, chap, apart, ne_eq, not_false_eq_true, and_self, ↓reduceIte, within_cons,
        option_inside inside, within_nil]
      simp
      omega
    · simp only [auth, chap, and_false, ↓reduceIte, within_cons, option_inside inside, within_nil]
      simp
  · simp [auth]

theorem requestedValue_within (inside : o + (memory (o + 1)).toNat ≤ l) :
    Within l (requestedValue st memory o) ↔
      requestLeast st memory o ≤ (memory (o + 1)).toNat := by
  simp only [requestedValue, requestLeast]
  generalize (memory o).toNat = type
  split
  case h_4 =>
      split <;> simp only [within_cons, option_inside inside, within_nil, and_true]
      omega
  case h_5 =>
      simp only [within_cons, option_inside inside, difference_inside, within_nil, and_true]
      omega
  all_goals simp [option_inside inside]

theorem reqLoop_within {walk : Negotiation} (received : 4 ≤ l) (fits : hl ≤ l) :
    Within l ((reqLoop st s t memory).run memory hl walk) ↔
      4 ≤ hl ∧ Long memory (requestLeast st memory) (optionsOf memory hl) := by
  refine run_within_iff_long rfl (fun _ o inside => ?_) (fun _ _ => rfl) received fits
  simp [reqLoop, requestedValue_within inside, queued_within inside]

theorem nakValue_within {refused : Refused} (inside : o + (memory (o + 1)).toNat ≤ l) :
    Within l ((nakLoop s memory).value refused o) ↔ nakLeast memory o ≤ (memory (o + 1)).toNat := by
  have mrru : memory o = 17 ↔ (memory o).toNat = 17 := UInt8.toNat_inj.symm
  simp only [nakLoop, nakLeast, mrru]
  generalize (memory o).toNat = type
  split
  case h_2 =>
      split
      case isTrue asked =>
          split <;> simp [option_inside inside] <;> omega
      case isFalse => simp
  case h_5 => simp_all
  all_goals split <;> simp_all [option_inside inside]

theorem nakLoop_next {refused : Refused} :
    ((nakLoop s memory).next refused o).isSome = nakKnown memory o := by
  have type (n : UInt8) : memory o = n ↔ (memory o).toNat = n.toNat := UInt8.toNat_inj.symm
  simp only [nakLoop, nakKnown, List.mem_cons, List.not_mem_nil, or_false, type]
  rw [lcpNakOption]
  generalize (memory o).toNat = type
  split
  case h_4 | h_5 => rfl
  case h_7 => simp_all [Except.toOption]
  all_goals
    dsimp only
    split_ifs <;> rfl

theorem nakLoop_within {start : Refused} (received : 4 ≤ l) (fits : hl ≤ l) :
    Within l ((nakLoop s memory).run memory hl start) ↔
      4 ≤ hl ∧
        Long memory (nakLeast memory) ((optionsOf memory hl).takeWhile (nakKnown memory)) := by
  refine run_within_iff rfl (fun refused o inside => ?_) (fun _ _ => nakLoop_next) received fits
  rw [nakValue_within inside, nakLeast]
  split
  case isTrue asked => simp [nakKnown, asked.2]
  case isFalse => simp

/-- What is compared is inside of its option. -/
theorem ncpLoop_within {ncp : Ncp} {known : State → Nat → Option (List UInt8)} {k : Nat}
    {option : Ncp.Request → Nat → Except State Ncp.Request} {start : Ncp.Request}
    (received : 4 ≤ l) (fits : hl ≤ l) :
    Within l ((ncpLoop ncp known s k memory option).run memory hl start) ↔ 4 ≤ hl := by
  rw [OptionLoop.run, within_cons, difference_inside]
  have inside : 4 + (hl - 4) ≤ l := by omega
  refine and_iff_left (touches_within (fun request o inside => ?_) inside)
  simp only [ncpLoop]
  split
  case h_1 value compared =>
      split
      case isTrue sized =>
          simp only [within_cons, option_inside inside, queued_within inside, and_true]
          omega
      case isFalse => exact within_nil
  case h_2 => exact queued_within inside

theorem dumpedValue_within {o : Nat} (inside : o + (memory (o + 1)).toNat ≤ l) :
    Within l (dumpedValue memory o) ↔ (memory o = 4 → 6 ≤ (memory (o + 1)).toNat) := by
  have quality : memory o = 4 ↔ (memory o).toNat = 4 := UInt8.toNat_inj.symm
  simp only [dumpedValue, quality]
  generalize (memory o).toNat = type
  split
  case h_5 => simp [option_inside inside]
  case h_6 => simp_all
  all_goals split_ifs <;> simp [option_inside inside] <;> omega

theorem dumpedOptions_within (fits : hl ≤ l) (left : o + x = hl) :
    Within l (dumpedOptions memory fuel o x) ↔
      ∀ i ∈ dumpedOffsets memory fuel o x,
        i + (memory (i + 1)).toNat ≤ hl ∧ (memory i = 4 → 6 ≤ (memory (i + 1)).toNat) := by
  induction fuel generalizing o x with
  | zero => simp [dumpedOptions, dumpedOffsets]
  | succ fuel ih =>
      simp only [dumpedOptions, dumpedOffsets]
      by_cases short : x ≤ 2
      · simp [short]
      have headed : o + 2 ≤ l := by omega
      by_cases small : (memory (o + 1)).toNat < 2
      · simp [short, small, headed]
      simp only [short, small, or_self, ↓reduceIte, within_cons, within_append, bytes_inside,
        headed, difference_inside, true_and, List.forall_mem_cons]
      by_cases inside : (memory (o + 1)).toNat ≤ x
      · have further := ih (o := o + (memory (o + 1)).toNat) (x := x - (memory (o + 1)).toNat)
          (by omega)
        have value := @dumpedValue_within l memory o (by omega)
        have ends : o + (memory (o + 1)).toNat ≤ hl := by omega
        simp only [value, inside, ends, true_and, further]
      · have beyond : ¬ o + (memory (o + 1)).toNat ≤ hl := by omega
        simp [inside, beyond]

theorem dumplcp_within (fits : hl ≤ l) :
    Within l (dumplcp debug memory hl) ↔ (3 < debug → Printable memory hl) := by
  rw [dumplcp]
  split
  case isTrue quiet => simp [Nat.not_lt.mpr quiet]
  case isFalse prints =>
      simp only [Nat.not_le.mp prints, true_imp_iff, Printable, within_cons, difference_inside,
        within_ite, within_nil, implies_true, and_true]
      refine and_congr_right fun headed => imp_congr_right fun _ => ?_
      exact dumpedOptions_within fits (by omega)

theorem requested_within (received : 4 ≤ l) (fits : hl ≤ l) :
    Within l (requested st s t memory hl) ↔
      4 ≤ hl ∧ Long memory (requestLeast st memory) (optionsOf memory hl) := by
  rw [requested, within_append, reqLoop_within received fits]
  refine and_iff_left ?_
  split
  · exact copied_within fits
  · exact within_nil

theorem protocolRejected_within (fits : hl ≤ l) : Within l (protocolRejected memory hl) := by
  simp only [protocolRejected, within_ite, within_cons, within_nil, bytes_inside, implies_true,
    and_true, true_and]
  omega

theorem lcpCode_within (received : 4 ≤ l) (fits : ntohs memory 2 ≤ l)
    (printed : 3 < debug → Printable memory (ntohs memory 2)) :
    Within l (lcpCode st s t memory (ntohs memory 2)) ↔ LcpSound debug st memory l := by
  have some : 1 ≤ l := by omega
  rw [lcpSound_iff, and_iff_right printed, lcpCode]
  by_cases ack : memory 0 = configAck
  · simp [ack, ackLoop_within received fits, configAck, configReq, configNak, configRej, echoReq]
  by_cases request : memory 0 = configReq
  · simp [request, requested_within received fits, configAck, configReq, configNak, configRej,
      echoReq]
  by_cases refusal : memory 0 = configNak ∨ memory 0 = configRej
  · have other : memory 0 ≠ echoReq := by
      rcases refusal with nak | rej
      · simp [nak, configNak, echoReq]
      · simp [rej, configRej, echoReq]
    simp only [if_neg ack, if_neg request, if_pos refusal, nakLoop_within received fits]
    simp only [ack, request, refusal, other, List.mem_cons, false_imp_iff, true_imp_iff, true_and]
    rcases refusal with nak | rej
    · simp [nak]
    · simp [rej]
  by_cases echo : memory 0 = echoReq
  · have last : Within l (sentBack st s t pppLcp (ntohs memory 2)) := sentBack_within some fits
    simp [echo, last, configAck, configReq, configNak, configRej, echoReq, terminateReq,
      protocolRej]
  rw [if_neg ack, if_neg request, if_neg refusal]
  simp only [ack, request, refusal, echo, false_imp_iff, true_and]
  by_cases terminate : memory 0 = terminateReq
  · simp [terminate, terminated_within some fits]
  rw [if_neg terminate]
  by_cases protocol : memory 0 = protocolRej
  · simp [protocol, protocolRejected_within fits]
  rw [if_neg protocol, if_neg id]
  by_cases ignored : memory 0 = echoReply ∨ memory 0 = codeRej
  · rw [if_pos ignored]
    rcases ignored with reply | reject
    · simp [reply]
    · simp [reject]
  rw [if_neg ignored, codeRejected_within fits, Nat.mod_eq_of_lt (Avp.ntohs_lt memory 2)]
  simp only [not_or] at refusal ignored
  simp [ack, request, refusal, terminate, protocol, echo, ignored]

theorem processlcp_within :
    Within l (processlcp debug st s t memory l) ↔
      (Considered memory l → (st.session s).die = 0 → LcpSound debug st memory l) := by
  rw [processlcp, handled_within]
  simp only [Considered, not_or, Nat.not_lt, not_not, and_imp]
  refine imp_congr_right fun received => imp_congr_right fun fits => imp_congr_right fun _ => ?_
  rw [within_append, dumplcp_within fits]
  constructor
  · rintro ⟨printed, code⟩
    exact (lcpCode_within received fits printed).mp code
  · intro sound
    exact ⟨sound.printed, (lcpCode_within received fits sound.printed).mpr sound⟩

theorem processpap_within :
    Within l (processpap debug st s memory l) ↔
      (Considered memory l → memory 0 = 1 → (st.session s).ppp.phase = .authenticate →
        PapSound memory l) := by
  rw [processpap, handled_within]
  simp only [Considered, not_or, Nat.not_lt, not_not, and_imp, ne_eq]
  refine imp_congr_right fun _ => imp_congr_right fun _ => imp_congr_right fun _ =>
    imp_congr_right fun _ => ?_
  simp only [papCredentials, PapSound, within_cons, within_ite, bytes_inside, within_nil,
    implies_true, and_true]
  omega

theorem processchap_within :
    Within l (processchap debug st s memory l) ↔
      (Considered memory l → memory 0 = 2 → (st.session s).ppp.phase = .authenticate →
        (st.sessLocal s).radius ≠ 0 →
          (memory 1).toNat = (st.radius (st.sessLocal s).radius).id → ChapSound debug memory) := by
  rw [processchap, handled_within]
  simp only [Considered, not_or, Nat.not_lt, not_not, and_imp, ne_eq]
  refine imp_congr_right fun _ => imp_congr_right fun fits => imp_congr_right fun _ =>
    imp_congr_right fun _ => imp_congr_right fun _ => imp_congr_right fun _ => ?_
  rw [chapCredentials, ChapSound]
  by_cases short : ntohs memory 2 < 5
  · simp [short, Nat.not_le.mpr short]
  rw [if_neg short]
  have first : 5 ≤ ntohs memory 2 := Nat.not_lt.mp short
  have inside : 5 ≤ l := first.trans fits
  by_cases sized : memory 4 = 16
  swap
  · simp [sized, inside]
  simp only [sized, ne_eq, not_true_eq_false, ↓reduceIte, within_cons, bytes_inside, inside,
    difference_inside, first, true_and, true_imp_iff]
  by_cases named : ntohs memory 2 - 5 < 16
  · rw [if_pos named, within_ite]
    simp only [within_cons, difference_inside, within_nil, implies_true, and_true]
    omega
  · rw [if_neg named, within_cons, within_ite]
    simp only [within_cons, difference_inside, bytes_inside, within_nil, implies_true, and_true,
      true_and]
    omega

theorem acknowledged_within {walked : Except State Ncp.Request} (fits : n ≤ l) :
    Within l (acknowledged walked s t proto n) := by
  cases walked with
  | ok walked => exact within_ite.mpr ⟨fun _ => copied_within fits, fun _ => within_nil⟩
  | error ended => exact within_nil

theorem networkPacket_within {ncp : Ncp} {known : State → Nat → Option (List UInt8)}
    {option : Nat → Ncp.Request → Nat → Except State Ncp.Request} (received : 4 ≤ l)
    (fits : ntohs memory 2 ≤ l) :
    Within l (networkPacket ncp known option st s t memory (ntohs memory 2)) ↔
      NetworkSound memory := by
  have some : 1 ≤ l := by omega
  rw [networkPacket, networkSound_iff]
  by_cases ack : memory 0 = configAck
  · simp [ack, configAck, configReq]
  rw [if_neg ack]
  by_cases request : memory 0 = configReq
  · rw [if_pos request, within_append, ncpLoop_within received fits]
    rw [and_iff_left (acknowledged_within fits)]
    simp [request]
  rw [if_neg request]
  by_cases terminate : memory 0 = terminateReq
  · simp [terminate, terminated_within some fits, configReq, terminateReq]
  rw [if_neg terminate]
  by_cases ignored : memory 0 = codeRej
  · simp [ignored, codeRej, configReq]
  rw [if_neg ignored, codeRejected_within fits, Nat.mod_eq_of_lt (Avp.ntohs_lt memory 2)]
  simp [ack, request, terminate, ignored]

theorem processipcp_within :
    Within l (processipcp debug st s t memory l) ↔ IpcpSound st s memory l := by
  rw [processipcp, handled_within]
  simp only [IpcpSound, Considered, not_or, Nat.not_lt, and_imp]
  exact imp_congr_right fun received => imp_congr_right fun fits => imp_congr_right fun _ =>
    networkPacket_within received fits

theorem processipv6cp_within :
    Within l (processipv6cp debug st s t memory l) ↔
      ((st.session s).ip ≠ 0 → IpcpSound st s memory l) := by
  rw [processipv6cp, handled_within]
  by_cases addressed : (st.session s).ip = 0
  · simp [addressed]
  simp only [IpcpSound, Considered, addressed, not_or, Nat.not_lt, and_imp, ne_eq,
    not_false_eq_true, true_imp_iff, or_false]
  exact imp_congr_right fun received => imp_congr_right fun fits => imp_congr_right fun _ =>
    networkPacket_within received fits

theorem pppFits_short (short : l ≤ 2) : pppFits st s t proto l = true := by
  have headers : pppHeader st s t proto ≤ 22 := by
    simp only [pppHeader]
    split_ifs <;> omega
  rw [pppFits, maxEther, decide_eq_true_eq]
  omega

theorem closed_within :
    Within l (if pppFits st s t pppCcp l then copied st s t pppCcp 2 else []) ↔ 2 ≤ l := by
  by_cases long : 2 ≤ l
  · refine iff_of_true ?_ long
    exact within_ite.mpr ⟨fun _ => copied_within long, fun _ => within_nil⟩
  · rw [if_pos (pppFits_short (by omega)), copied, if_pos (pppFits_short (Nat.le_refl 2))]
    simp

theorem processccp_within :
    Within l (processccp debug st s t memory l) ↔ CcpSound debug st s memory l := by
  have hex : Within l (if 5 ≤ debug then [.bytes 0 l] else []) := by
    split <;> simp
  rw [processccp, within_append, and_iff_right hex, ccpSound_iff]
  by_cases early : (st.session s).ppp.phase.code < Phase.network.code
  · simp [early, within_ite]
  rw [if_neg early, within_cons, bytes_inside]
  simp only [early, false_imp_iff, not_false_eq_true, true_imp_iff, true_and, Nat.zero_add]
  refine and_congr_right fun some => ?_
  have returned := @sentBack_within s t l l st pppCcp some (Nat.le_refl l)
  by_cases ack : memory 0 = configAck
  · simp [ack, configAck, configReq]
  rw [if_neg ack]
  by_cases request : memory 0 = configReq
  · rw [if_pos request, within_append, and_iff_right returned]
    by_cases closed : (st.session s).ppp.ccp = .closed
    · simpa [closed, request] using closed_within
    · simp [closed, request]
  rw [if_neg request]
  by_cases terminate : memory 0 = terminateReq
  · simp [terminate, returned, configReq, terminateReq]
  rw [if_neg terminate]
  by_cases ignored : memory 0 = codeRej
  · simp [ignored, codeRej, configReq]
  rw [if_neg ignored, codeRejected_within (Nat.le_refl l)]
  simp [ack, request, terminate, ignored]

/-- A comparison that goes from field to field ends inside of the packet exactly if the packet has
all fields, or one that differs. -/
theorem compare_within {pattern : Pattern}
    (ordered : pattern.Pairwise fun first later =>
      first.1 + first.2.length ≤ later.1 + later.2.length) :
    Within l (pattern.compare memory) ↔ Settled pattern memory l := by
  induction ordered with
  | nil => simp [Pattern.compare, Settled]
  | @cons field rest before _ ih =>
      rw [Pattern.compare, within_cons, bytes_inside]
      by_cases inside : field.1 + field.2.length ≤ l
      · by_cases same : readBytes memory field.1 field.2.length = field.2
        · rw [if_pos same, ih]
          simp [Settled, inside, same]
        · simp [Settled, inside, same]
      · have beyond (later : Nat × List UInt8) (member : later ∈ rest) :
            ¬ later.1 + later.2.length ≤ l := by
          have ends := before later member
          omega
        simp only [Settled, inside, false_and, List.forall_mem_cons, List.exists_mem_cons_iff,
          false_or, false_iff, not_exists, not_and]
        exact fun later member ends => absurd ends (beyond later member)

theorem processipv6in_within :
    Within l (processipv6in debug st s memory l) ↔ Ipv6Sound st s memory l := by
  have hex : Within l (if 5 ≤ debug then [.bytes 0 l] else []) := by
    split <;> simp
  rw [processipv6in, within_append, and_iff_right hex, ipv6Sound_iff, within_cons, within_cons,
    bytes_inside, bytes_inside, within_ite, within_append, within_ite,
    compare_within (by decide), compare_within (by decide)]
  simp only [within_nil, implies_true, true_and]
  constructor
  · rintro ⟨source, _, compared⟩
    exact ⟨source, fun kept => (compared kept).1, fun kept => (compared kept).2⟩
  · rintro ⟨source, solicits, asks⟩
    exact ⟨source, by omega, fun kept => ⟨solicits kept, asks kept⟩⟩

theorem framed_within :
    Within l (framed debug st s t proto memory l) ↔ FramedSound debug st s proto memory l := by
  rw [framed, framedSound_iff]
  generalize st.config.ipv6Prefix.headD 0 = configured
  by_cases ipv6 : proto = pppIpv6
  · by_cases none : configured = 0
    · simp [ipv6, none, pppIpv6, pppIpcp, pppCcp]
    · by_cases closing : (st.session s).die = 0
      · simp [ipv6, none, closing, processipv6in_within, pppIpv6, pppIpcp, pppCcp]
      · simp [ipv6, none, closing, pppIpv6, pppIpcp, pppCcp]
  by_cases ip : proto = pppIpcp
  · simp [ip, processipcp_within, pppIpv6, pppIpcp, pppCcp]
  by_cases compression : proto = pppCcp
  · simp [compression, processccp_within, pppIpv6, pppIpcp, pppCcp]
  simp [ipv6, ip, compression]

theorem without_of_le {part : Nat} (fits : part ≤ l) : without l part = l - part := if_pos fits

/-- A frame: its lengths do not wrap if it has its protocol, and then the packet is what is
behind. -/
theorem processmpframe_within {extra : Bool} :
    Within l (processmpframe debug st s t extra memory l) ↔
      FrameSound debug st s memory (if extra then 4 else 0) l := by
  have free : Within l (if extra then [.difference l 4] else []) ↔
      (if extra then 4 else 0) ≤ l := by
    cases extra <;> simp
  rw [processmpframe, FrameSound]
  generalize (if extra then 4 else 0) = p at *
  generalize protocolBytes memory p = n
  simp only [within_append, free, within_cons, bytes_inside, difference_inside]
  by_cases inside : p + n ≤ l
  · have skipped : without l p = l - p := without_of_le (by omega)
    have rest : without (l - p) n = l - (p + n) := by
      rw [without_of_le (by omega)]
      omega
    have shifted := @shift_within (l - (p + n)) (p + n)
      (framed debug st s t (frameProtocol memory p) (behind memory (p + n)) (l - (p + n)))
    rw [Nat.add_sub_cancel' inside] at shifted
    rw [skipped, rest, shifted, framed_within]
    have start : p ≤ l := by omega
    have protocol : n ≤ l - p := by omega
    simp only [inside, start, protocol, true_and]
  · simp [inside]

/-- **PPP packets in bounds.** A handler reads and writes inside of the bytes that were received,
reads the value of an option inside of what it declares, and has no length below zero, exactly if
the lengths are as it takes them to be. -/
theorem touches_inside_iff (handler : Handler) (debug : Nat) (st : State) (s t : Nat)
    (memory : Memory) (l : Nat) :
    Within l (handler.touches debug st s t memory l) ↔ handler.Sound debug st s memory l := by
  cases handler with
  | processlcp => exact processlcp_within
  | processpap => exact processpap_within
  | processchap => exact processchap_within
  | processipcp => exact processipcp_within
  | processipv6cp => exact processipv6cp_within
  | processccp => exact processccp_within
  | processipv6in => exact processipv6in_within
  | processmpframe extra => exact processmpframe_within

/-- An echo request that is not longer than its header. -/
def shortEcho : Memory := fun k => ([9, 1, 0, 4][k]?).getD 0

/-- The magic number is written behind a short echo request. -/
theorem echo_outside : ¬ ∀ (handler : Handler) (debug : Nat) (st : State) (s t : Nat)
    (memory : Memory) (l : Nat), Within l (handler.touches debug st s t memory l) := by
  intro inside
  have sound := processlcp_within.mp (inside .processlcp 0 (bothUp 20) 1 1 shortEcho 4)
  exact absurd ((sound ⟨by decide, by decide⟩ rfl).echo rfl) (by decide)

end L2tpns.Footprint
