import L2tpns.Ppp.Inquiry
import L2tpns.Ppp.Lcp
import L2tpns.Ppp.Network

/-! # The options of configuration requests

The verdicts of LCP, IPCP and IPV6CP on the options of a request, and which of the options the
source acts on. The answer that the walk over the options comes to is the one that is collected for
those (`L2tpns.Answering.lcpWalk_answer`).
-/

namespace L2tpns.Answering

open Avp (Memory ntohs ntohl readBytes)
open Server

variable {st : State} {s t l : Nat} {memory : Memory}

/-- The length that an option declares. -/
def declared (memory : Memory) (o : Nat) : Nat := (memory (o + 1)).toNat

def optionAt (memory : Memory) (o : Nat) : List UInt8 := readBytes memory o (declared memory o)

/-- The options from `o` on with `x` bytes left. -/
def tilesFrom (memory : Memory) : Nat → Nat → Nat → List Nat
  | 0, _, _ => []
  | fuel + 1, o, x =>
      if x = 0 then []
      else o :: tilesFrom memory fuel (o + declared memory o) (x - declared memory o)

/-- The options of a request of `l` bytes. -/
def tiles (memory : Memory) (l : Nat) : List Nat := tilesFrom memory (l - 4) 4 (l - 4)

/-- The options have at least two bytes each and fill what is left. -/
def TiledFrom (memory : Memory) : Nat → Nat → Nat → Prop
  | 0, _, x => x = 0
  | fuel + 1, o, x =>
      x = 0 ∨ 2 ≤ declared memory o ∧ declared memory o ≤ x ∧
        TiledFrom memory fuel (o + declared memory o) (x - declared memory o)

/-- The options of a request are well formed. -/
def Tiled (memory : Memory) (l : Nat) : Prop := 4 ≤ l ∧ TiledFrom memory (l - 4) 4 (l - 4)

/-- The types of authentication that are suggested. -/
def authValues (config : Config) : List (List UInt8) :=
  let prefer := config.radiusAuthprefer
  let first := addLcpAuth prefer
  let second := addLcpAuth (config.radiusAuthtypes - (config.radiusAuthtypes &&& prefer))
  (if first = [] then [] else [first.drop 2]) ++
    if config.radiusAuthtypes ≠ prefer ∧ second ≠ [] then [second.drop 2] else []

/-- The types of authentication that are used. -/
def authGranted (config : Config) (memory : Memory) (o : Nat) : Prop :=
  ntohs memory (o + 2) = pppPap ∧ config.radiusAuthtypes &&& authPap ≠ 0 ∨
    ntohs memory (o + 2) = pppChap ∧ config.radiusAuthtypes &&& authChap ≠ 0 ∧ memory (o + 4) = 5

instance (config : Config) (memory : Memory) (o : Nat) :
    Decidable (authGranted config memory o) :=
  inferInstanceAs (Decidable (_ ∨ _))

/-- The verdict on an option of LCP. What is negotiated has the length of its value. -/
def lcpVerdict (config : Config) (memory : Memory) (o : Nat) : Verdict :=
  let length := declared memory o
  match (memory o).toNat with
  | 1 =>
      if length = 4 ∧ minMtu ≤ ntohs memory (o + 2) then .acceptable
      else .improvable [bytes16 config.mru]
  | 2 => if length = 6 ∧ ntohl memory (o + 2) = 0 then .acceptable else .improvable [[0, 0, 0, 0]]
  | 3 =>
      if length = (if ntohs memory (o + 2) = pppChap then 5 else 4) ∧ authGranted config memory o
      then .acceptable
      else .improvable (authValues config)
  | 4 | 5 | 7 | 8 | 17 | 18 | 19 => .acceptable
  | _ => .unacceptable

/-- Whether the source does not accept an option of LCP, when it sees it. -/
def lcpActs (config : Config) (memory : Memory) (o : Nat) : Bool :=
  match (memory o).toNat with
  | 1 => ntohs memory (o + 2) < minMtu
  | 2 => ntohl memory (o + 2) ≠ 0
  | 3 => ¬ authGranted config memory o ∧ addLcpAuth config.radiusAuthprefer ≠ []
  | 4 | 5 | 7 | 8 | 17 | 18 | 19 => false
  | _ => true

/-- A ConfigReq of LCP of `l` bytes. -/
def lcpInquiry (st : State) (s t : Nat) (memory : Memory) (l : Nat) : Inquiry where
  limit := st.config.pppMaxFailure
  header := pppHeader st s t pppLcp
  nakSent := ((st.sessLocal s).timer .lcp).nakSent
  options := tiles memory l
  judge o := ⟨optionAt memory o, lcpVerdict st.config memory o⟩
  acts o := decide (o ∈ optionsOf memory l) && lcpActs st.config memory o

/-- The verdict on an option that is compared with a value of the session. -/
def networkVerdict (known : Nat → Option (List UInt8)) (memory : Memory) (o : Nat) : Verdict :=
  match known (memory o).toNat with
  | some value =>
      if declared memory o = value.length + 2 ∧ readBytes memory (o + 2) value.length = value
      then .acceptable
      else .improvable [value]
  | none => .unacceptable

/-- The last two bytes of a request are not looked at. -/
def seen (l o : Nat) : Bool := o + 2 < l

/-- Whether an option is not the one that is known. -/
def networkActs (known : Nat → Option (List UInt8)) (memory : Memory) (o : Nat) : Bool :=
  match known (memory o).toNat with
  | some value => readBytes memory (o + 2) value.length ≠ value
  | none => true

/-- A ConfigReq of a network protocol. -/
def networkInquiry (ncp : Ncp) (known : Nat → Option (List UInt8)) (st : State) (s t : Nat)
    (memory : Memory) (l : Nat) : Inquiry where
  limit := st.config.pppMaxFailure
  header := pppHeader st s t ncp.proto
  nakSent := ((st.sessLocal s).timer ncp.fsm).nakSent
  options := tiles memory l
  judge o := ⟨optionAt memory o, networkVerdict known memory o⟩
  acts o := seen l o && networkActs known memory o

theorem mem_tilesFrom {fuel o x i : Nat} (tiled : TiledFrom memory fuel o x)
    (tile : i ∈ tilesFrom memory fuel o x) :
    o ≤ i ∧ 2 ≤ declared memory i ∧ i + declared memory i ≤ o + x := by
  induction fuel generalizing o x with
  | zero => exact nomatch tile
  | succ fuel ih =>
      rw [tilesFrom] at tile
      rcases tiled with none | ⟨two, fits, rest⟩
      · simp [none] at tile
      · have some : x ≠ 0 := by omega
        rw [if_neg some, List.mem_cons] at tile
        rcases tile with rfl | later
        · exact ⟨Nat.le_refl _, two, by omega⟩
        · have inside := ih rest later
          omega

/-- The options that the loop of LCP sees are the first ones. -/
theorem optionOffsets_filter {p : Nat → Bool} {fuel o x : Nat} (tiled : TiledFrom memory fuel o x) :
    (tilesFrom memory fuel o x).filter
        (fun i => decide (i ∈ optionOffsets memory fuel o x) && p i) =
      (optionOffsets memory fuel o x).filter p := by
  induction fuel generalizing o x with
  | zero => rfl
  | succ fuel ih =>
      rcases tiled with none | ⟨two, fits, rest⟩
      · simp [tilesFrom, optionOffsets, none]
      rw [declared] at two fits rest
      by_cases short : x ≤ 2
      · simp [optionOffsets, short]
      have some : x ≠ 0 := by omega
      by_cases untyped : memory o = 0
      · simp [optionOffsets, short, untyped]
      have goesOn : ¬ ((memory (o + 1)).toNat = 0 ∨ memory o = 0 ∨ x < (memory (o + 1)).toNat) := by
        simp only [untyped, false_or]
        omega
      simp only [tilesFrom, optionOffsets, if_neg short, if_neg some, if_neg goesOn, declared]
      have inside := ih rest
      generalize optionOffsets memory fuel (o + (memory (o + 1)).toNat)
        (x - (memory (o + 1)).toNat) = offsets at inside ⊢
      have behind (i : Nat) (tile : i ∈ tilesFrom memory fuel (o + (memory (o + 1)).toNat)
          (x - (memory (o + 1)).toNat)) :
          (decide (i ∈ o :: offsets) && p i) = (decide (i ∈ offsets) && p i) := by
        have later : i ≠ o := by
          have start := (mem_tilesFrom rest tile).1
          omega
        simp [later]
      simp only [List.filter_cons, List.mem_cons, true_or, decide_true, Bool.true_and] at behind ⊢
      rw [List.filter_congr behind, inside]

/-- What the walk over the options leaves alone. -/
structure Keeps (s : Nat) (st st' : State) : Prop where
  config : st'.config = st.config
  flags : (st'.session s).flags = (st.session s).flags
  ppp : (st'.session s).ppp = (st.session s).ppp
  opened : (st'.session s).opened = (st.session s).opened
  sent : st'.sent = st.sent

theorem Keeps.refl : Keeps s st st := ⟨rfl, rfl, rfl, rfl, rfl⟩

theorem Keeps.trans {st' st'' : State} (first : Keeps s st st') (second : Keeps s st' st'') :
    Keeps s st st'' :=
  ⟨second.config.trans first.config, second.flags.trans first.flags, second.ppp.trans first.ppp,
    second.opened.trans first.opened, second.sent.trans first.sent⟩

theorem Keeps.setLocal (change : SessLocal → SessLocal) : Keeps s st (st.setLocal s change) :=
  ⟨rfl, rfl, rfl, rfl, rfl⟩

/-- How far the answer is, in a state. -/
def progress (st : State) (s : Nat) (fsm : Fsm) (answer : Answer) : Progress :=
  ⟨answer, ((st.sessLocal s).timer fsm).nakSent⟩

theorem timer_setTimer {own : SessLocal} {timer : Restart} {fsm : Fsm} :
    (own.setTimer timer fsm).timer fsm = timer := by
  cases fsm <;> rfl

/-- `pppConfNak` is `confNak`, and keeps the rest. -/
theorem pppConfNak_progress (fsm : Fsm) (header : Nat) (answer : Answer) (judged : Judged)
    (value : List UInt8) :
    progress (pppConfNak st s fsm header answer judged.option value).1 s fsm
        (pppConfNak st s fsm header answer judged.option value).2 =
      confNak st.config.pppMaxFailure header (progress st s fsm answer) judged value ∧
    Keeps s st (pppConfNak st s fsm header answer judged.option value).1 := by
  obtain ⟨_ | reply, lost⟩ := answer
  · by_cases failed : st.config.pppMaxFailure ≤ ((st.sessLocal s).timer fsm).nakSent
    · simp [pppConfNak, confNak, progress, failed, Keeps.refl]
    · simp only [pppConfNak, confNak, progress, failed, ↓reduceIte, State.setLocal_same,
        timer_setTimer, Judged.suggest, Keeps.setLocal, and_true]
  · by_cases naks : reply.code = configNak
    · cases lost <;> simp [pppConfNak, confNak, progress, naks, Keeps.refl, Judged.suggest]
    · by_cases failed : st.config.pppMaxFailure ≤ ((st.sessLocal s).timer fsm).nakSent
      · simp [pppConfNak, confNak, progress, naks, failed, Keeps.refl]
      · simp [pppConfNak, confNak, progress, naks, failed, Keeps.refl]

theorem Keeps.setSession {change : Session → Session}
    (flags : (change (st.session s)).flags = (st.session s).flags)
    (ppp : (change (st.session s)).ppp = (st.session s).ppp)
    (opened : (change (st.session s)).opened = (st.session s).opened) :
    Keeps s st (st.setSession s change) := by
  refine ⟨rfl, ?_, ?_, ?_, rfl⟩
  all_goals rw [State.setSession_same]
  · exact flags
  · exact ppp
  · exact opened

variable {header o : Nat} {negotiation : Negotiation}

/-- Two types of authentication are suggested if there is a second one. -/
theorem collect_auth {limit : Nat} {config : Config} {before : Progress} {option : List UInt8}
    (preferred : addLcpAuth config.radiusAuthprefer ≠ []) :
    let judged : Judged := ⟨option, .improvable (authValues config)⟩
    let second := addLcpAuth (config.radiusAuthtypes -
      (config.radiusAuthtypes &&& config.radiusAuthprefer))
    let once := confNak limit header before judged ((addLcpAuth config.radiusAuthprefer).drop 2)
    collect limit header before judged =
      if once.naks ∧ config.radiusAuthtypes ≠ config.radiusAuthprefer ∧ second ≠ [] then
        confNak limit header once judged (second.drop 2)
      else once := by
  intro judged second once
  have values : authValues config = (addLcpAuth config.radiusAuthprefer).drop 2 ::
      if config.radiusAuthtypes ≠ config.radiusAuthprefer ∧ second ≠ [] then [second.drop 2]
      else [] := by
    simp only [authValues, if_neg preferred, List.singleton_append]
    rfl
  have first : collect limit header before judged =
      (if config.radiusAuthtypes ≠ config.radiusAuthprefer ∧ second ≠ [] then [second.drop 2]
        else []).foldl
        (fun progress value =>
          if progress.naks then confNak limit header progress judged value else progress) once := by
    simp only [collect, judged, values]
    rfl
  rw [first]
  by_cases another : config.radiusAuthtypes ≠ config.radiusAuthprefer ∧ second ≠ []
  · simp [another]
  · simp [another]

theorem setAuthtype_progress {authtype : Nat} {answer : Answer} :
    progress (setAuthtype st s authtype) s .lcp answer = progress st s .lcp answer := by
  rw [progress, setAuthtype, State.setLocal_same]
  rfl

theorem Keeps.setAuthtype (authtype : Nat) : Keeps s st (setAuthtype st s authtype) := .setLocal _

/-- An option that asks for authentication. -/
theorem lcpAuthOption_progress (auth : (memory o).toNat = 3) :
    let next := lcpAuthOption negotiation s header memory o
    let config := negotiation.st.config
    progress next.st s .lcp next.answer =
        (if lcpActs config memory o then
          collect config.pppMaxFailure header (progress negotiation.st s .lcp negotiation.answer)
            ⟨optionAt memory o, lcpVerdict config memory o⟩
        else progress negotiation.st s .lcp negotiation.answer) ∧
      Keeps s negotiation.st next.st := by
  intro next config
  by_cases granted : authGranted config memory o
  · have idle : lcpActs config memory o = false := by simp [lcpActs, auth, granted]
    rw [idle]
    rcases granted with pap | chap
    · have same : next = { negotiation with st := setAuthtype negotiation.st s authPap } :=
        if_pos pap
      rw [same]
      exact ⟨setAuthtype_progress, .setAuthtype _⟩
    · have other : ¬ (ntohs memory (o + 2) = pppPap ∧ config.radiusAuthtypes &&& authPap ≠ 0) := by
        rw [chap.1]
        exact fun pap => absurd pap.1 (by decide)
      have same : next = { negotiation with st := setAuthtype negotiation.st s authChap } :=
        (if_neg other).trans (if_pos chap)
      rw [same]
      exact ⟨setAuthtype_progress, .setAuthtype _⟩
  have pap : ¬ (ntohs memory (o + 2) = pppPap ∧ config.radiusAuthtypes &&& authPap ≠ 0) :=
    fun pap => granted (.inl pap)
  have chap : ¬ (ntohs memory (o + 2) = pppChap ∧ config.radiusAuthtypes &&& authChap ≠ 0 ∧
      memory (o + 4) = 5) := fun chap => granted (.inr chap)
  by_cases preferred : addLcpAuth config.radiusAuthprefer = []
  · have idle : lcpActs config memory o = false := by simp [lcpActs, preferred, auth]
    have same : next = negotiation := by
      simp only [next, lcpAuthOption, config] at *
      rw [if_neg pap, if_neg chap, if_pos preferred]
    rw [idle, same]
    exact ⟨rfl, .refl⟩
  have acts : lcpActs config memory o = true := by simp [lcpActs, auth, granted, preferred]
  have verdict : lcpVerdict config memory o = .improvable (authValues config) := by
    simp [lcpVerdict, auth, granted]
  rw [acts, verdict]
  have once := @pppConfNak_progress negotiation.st s .lcp header negotiation.answer
    ⟨optionAt memory o, .improvable (authValues config)⟩
    ((addLcpAuth config.radiusAuthprefer).drop 2)
  have collects := @collect_auth header config.pppMaxFailure config
    (progress negotiation.st s .lcp negotiation.answer) (optionAt memory o) preferred
  obtain ⟨counted, kept⟩ := once
  simp only [↓reduceIte]
  rw [collects, ← counted]
  simp only [next, lcpAuthOption]
  rw [if_neg pap, if_neg chap, if_neg preferred]
  have whole : readBytes memory o (memory (o + 1)).toNat = optionAt memory o := rfl
  simp only [whole] at kept ⊢
  generalize pppConfNak negotiation.st s .lcp header negotiation.answer (optionAt memory o)
    ((addLcpAuth config.radiusAuthprefer).drop 2) = once at kept ⊢
  have twice := @pppConfNak_progress once.1 s .lcp header once.2
    ⟨optionAt memory o, .improvable (authValues config)⟩
    ((addLcpAuth (config.radiusAuthtypes -
      (config.radiusAuthtypes &&& config.radiusAuthprefer))).drop 2)
  rw [kept.config] at twice
  by_cases another : ¬ once.2.lost = true ∧ once.2.response.map Reply.code = some configNak ∧
      config.radiusAuthtypes ≠ config.radiusAuthprefer ∧
      addLcpAuth (config.radiusAuthtypes -
        (config.radiusAuthtypes &&& config.radiusAuthprefer)) ≠ []
  · rw [if_pos another, if_pos]
    · exact ⟨twice.1, kept.trans twice.2⟩
    · exact ⟨by simp [Progress.naks, progress, another.1, another.2.1], another.2.2⟩
  · rw [if_neg another, if_neg]
    · exact ⟨rfl, kept⟩
    · rintro ⟨naks, more⟩
      simp only [Progress.naks, progress, Bool.and_eq_true, Bool.not_eq_true', beq_iff_eq] at naks
      exact another ⟨by simp [naks.1], naks.2, more⟩

/-- One option of a ConfigReq of LCP: it is carried out if it is not accepted. -/
theorem lcpReqOption_progress :
    let next := lcpReqOption s header memory negotiation o
    let config := negotiation.st.config
    progress next.st s .lcp next.answer =
        (if lcpActs config memory o then
          collect config.pppMaxFailure header (progress negotiation.st s .lcp negotiation.answer)
            ⟨optionAt memory o, lcpVerdict config memory o⟩
        else progress negotiation.st s .lcp negotiation.answer) ∧
      Keeps s negotiation.st next.st := by
  intro next config
  have nak := @pppConfNak_progress negotiation.st s .lcp header negotiation.answer
  by_cases auth : (memory o).toNat = 3
  · have same : next = lcpAuthOption negotiation s header memory o := by
      simp only [next, lcpReqOption, auth]
    rw [same]
    exact lcpAuthOption_progress auth
  simp only [next, config, lcpReqOption, lcpActs, lcpVerdict]
  generalize (memory o).toNat = type at *
  split
  · by_cases small : ntohs memory (o + 2) < minMtu
    · have refused : ¬ minMtu ≤ ntohs memory (o + 2) := Nat.not_le.mpr small
      simp only [refused, small, and_false, ↓reduceIte, decide_true]
      exact nak ⟨optionAt memory o, .improvable [bytes16 negotiation.st.config.mru]⟩ _
    · have accepted : minMtu ≤ ntohs memory (o + 2) := Nat.not_lt.mp small
      simp only [accepted, small, ↓reduceIte, decide_false, Bool.false_eq_true]
      exact ⟨rfl, .setSession rfl rfl rfl⟩
  · by_cases zero : ntohl memory (o + 2) = 0
    · simp [zero, Keeps.refl]
    · simp only [zero, ne_eq, not_false_eq_true, and_false, ↓reduceIte, decide_true]
      exact nak ⟨optionAt memory o, .improvable [[0, 0, 0, 0]]⟩ _
  · exact absurd rfl auth
  case h_8 | h_9 | h_10 =>
      dsimp only
      exact ⟨rfl, .setSession rfl rfl rfl⟩
  case h_4 | h_5 | h_6 | h_7 => exact ⟨rfl, .refl⟩
  · simp only [↓reduceIte, collect]
    exact ⟨rfl, .refl⟩

theorem lcpOptions_progress {config : Config} (same : negotiation.st.config = config)
    (offsets : List Nat) :
    let last := offsets.foldl (lcpReqOption s header memory) negotiation
    progress last.st s .lcp last.answer =
        ((offsets.filter (lcpActs config memory)).map fun o =>
          (⟨optionAt memory o, lcpVerdict config memory o⟩ : Judged)).foldl
          (collect config.pppMaxFailure header)
          (progress negotiation.st s .lcp negotiation.answer) ∧
      Keeps s negotiation.st last.st := by
  induction offsets generalizing negotiation with
  | nil => exact ⟨rfl, .refl⟩
  | cons o rest ih =>
      have option := @lcpReqOption_progress s memory header o negotiation
      simp only [same] at option
      obtain ⟨last, kept⟩ := ih (option.2.config.trans same)
      rw [List.foldl_cons]
      refine ⟨last.trans ?_, option.2.trans kept⟩
      rw [option.1]
      by_cases acts : lcpActs config memory o = true
      · simp [acts]
      · simp [acts]

/-- The walk over the options of a well-formed request comes to the answer that is collected for
those that it acts on. -/
theorem lcpWalk_answer (tiled : Tiled memory l) :
    (lcpWalk st s t memory l).answer = (lcpInquiry st s t memory l).answer ∧
      Keeps s st (lcpWalk st s t memory l).st := by
  have walked := @lcpOptions_progress s memory (pppHeader st s t pppLcp) ⟨st, .none, false⟩
    st.config rfl (optionsOf memory l)
  refine ⟨?_, walked.2⟩
  have filtered : (tiles memory l).filter
      (fun o => decide (o ∈ optionsOf memory l) && lcpActs st.config memory o) =
      (optionsOf memory l).filter (lcpActs st.config memory) :=
    optionOffsets_filter tiled.2
  have answer := congrArg Progress.answer walked.1
  rw [← filtered] at answer
  exact answer

end L2tpns.Answering
