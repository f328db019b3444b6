import L2tpns.Ppp.Completion
import L2tpns.Ppp.Footprint
import L2tpns.Ppp.Requests

/-! # The walk over a request of a network protocol

IPCP and IPV6CP compare options with what they know of the session and reject the others. The
processing ends without a reply at an option of another length, when a reply has no room, and when
IPCP would reject the address. Otherwise the answer is the one that is collected
(`L2tpns.Answering.Dialect.walk_outcome`).
-/

namespace L2tpns.Answering

open Avp (Memory readBytes)
open Server
open Server.Ncp (Request)

variable {st : State} {s l : Nat} {memory : Memory} {header o : Nat}

/-- A network protocol with the options that it compares, the type of its address, and whether a
rejected address ends the session. -/
structure Dialect where
  ncp : Ncp
  option : Nat → Memory → Nat → Request → Nat → Except State Request
  known : Nat → State → Nat → Option (List UInt8)
  address : Nat
  insists : Bool

/-- An option that is known has the length of its value. -/
def Measured (known : Nat → Option (List UInt8)) (memory : Memory) (o : Nat) : Prop :=
  ∀ value, known (memory o).toNat = some value → declared memory o = value.length + 2

/-- What options of a network protocol leave alone. -/
structure Untouched (st st' : State) : Prop where
  session : st'.session = st.session
  config : st'.config = st.config
  sent : st'.sent = st.sent

/-- The processing has ended without a reply; the session may have been shut down. -/
def Ended (s : Nat) (st ended : State) : Prop :=
  ended.sent = st.sent ∨ ∃ last reason, last.sent = st.sent ∧
    ended = sessionshutdown last s reason 3 0 (some .userError)

namespace Dialect

variable (dialect : Dialect)

def isAddress (memory : Memory) (o : Nat) : Bool := (memory o).toNat = dialect.address

def strict (memory : Memory) (o : Nat) : Bool := dialect.insists && dialect.isAddress memory o

/-- A ConfigReq of the protocol. -/
def inquiry (st : State) (s t : Nat) (memory : Memory) (l : Nat) : Inquiry :=
  networkInquiry dialect.ncp (dialect.known s st) st s t memory l

/-- The answer with an option carried out. -/
def advance (st : State) (s header : Nat) (memory : Memory) (before : Progress) (o : Nat) :
    Progress :=
  if networkActs (dialect.known s st) memory o then
    collect st.config.pppMaxFailure header before
      ⟨optionAt memory o, networkVerdict (dialect.known s st) memory o⟩
  else before

/-- An option does not end the processing. -/
def Passes (st : State) (s header : Nat) (memory : Memory) (before : Progress) (o : Nat) : Prop :=
  Measured (dialect.known s st) memory o ∧
    Goes (dialect.strict memory o) before.answer
      (dialect.advance st s header memory before o).answer

/-- What an option of a request comes to: it is carried out, or it ends the processing. -/
def Outcome (st : State) (s header : Nat) (memory : Memory) (request : Request) (o : Nat)
    (gotip : Bool) (result : Except State Request) : Prop :=
  let before := progress request.st s dialect.ncp.fsm request.answer
  (dialect.Passes st s header memory before o ∧ ∃ next, result = .ok next ∧
      Untouched st next.st ∧
      progress next.st s dialect.ncp.fsm next.answer =
        dialect.advance st s header memory before o ∧
      next.gotip = gotip) ∨
    ¬ dialect.Passes st s header memory before o ∧ ∃ ended, result = .error ended ∧ Ended s st ended

/-- The options are carried out as their verdicts ask for. -/
def Carries : Prop :=
  ∀ (st : State) (s header : Nat) (memory : Memory) (request : Request) (o : Nat),
    Untouched st request.st → request.answer.lost = false →
    dialect.Outcome st s header memory request o (request.gotip || dialect.isAddress memory o)
      (dialect.option s memory header request o)

end Dialect

theorem Untouched.refl : Untouched st st := ⟨rfl, rfl, rfl⟩

theorem Untouched.trans {st' st'' : State} (first : Untouched st st')
    (second : Untouched st' st'') : Untouched st st'' :=
  ⟨second.session.trans first.session, second.config.trans first.config,
    second.sent.trans first.sent⟩

theorem pppConfNak_untouched {fsm : Fsm} {answer : Answer} {option value : List UInt8} :
    Untouched st (pppConfNak st s fsm header answer option value).1 := by
  rw [pppConfNak]
  split
  · split
    · exact .refl
    · split <;> exact .refl
  · split
    · exact .refl
    · exact ⟨rfl, rfl, rfl⟩

variable {dialect : Dialect} {request : Request}

/-- An option that is compared with a value. -/
theorem expect_advance {value : List UInt8} (untouched : Untouched st request.st)
    (kept : request.answer.lost = false)
    (known : dialect.known s st (memory o).toNat = some value)
    (measured : declared memory o = value.length + 2) :
    let asked := request.expect dialect.ncp.fsm s header memory o value
    asked.2 = asked.1.answer.lost ∧
      progress asked.1.st s dialect.ncp.fsm asked.1.answer =
        dialect.advance st s header memory
          (progress request.st s dialect.ncp.fsm request.answer) o ∧
      Untouched st asked.1.st ∧ asked.1.gotip = request.gotip := by
  intro asked
  by_cases same : readBytes memory (o + 2) value.length = value
  · have idle : networkActs (dialect.known s st) memory o = false := by
      simp [networkActs, known, same]
    have unchanged : asked = (request, false) := if_pos same
    rw [unchanged, Dialect.advance, idle]
    exact ⟨kept.symm, rfl, untouched, rfl⟩
  · have acts : networkActs (dialect.known s st) memory o = true := by
      simp [networkActs, known, same]
    have verdict : networkVerdict (dialect.known s st) memory o = .improvable [value] := by
      simp [networkVerdict, known, measured, same]
    have suggested := (@pppConfNak_progress request.st s dialect.ncp.fsm header request.answer
      ⟨optionAt memory o, .improvable [value]⟩ value).1
    have further := @pppConfNak_untouched request.st s header dialect.ncp.fsm request.answer
      (optionAt memory o) value
    have asks : asked = ({ request with
        st := (pppConfNak request.st s dialect.ncp.fsm header request.answer
          (optionAt memory o) value).1
        answer := (pppConfNak request.st s dialect.ncp.fsm header request.answer
          (optionAt memory o) value).2 },
        (pppConfNak request.st s dialect.ncp.fsm header request.answer
          (optionAt memory o) value).2.lost) :=
      if_neg same
    rw [asks, Dialect.advance, acts, verdict]
    refine ⟨rfl, ?_, untouched.trans further, rfl⟩
    rw [← untouched.config]
    exact suggested

theorem reject_advance (unknown : dialect.known s st (memory o).toNat = none) :
    let before := progress request.st s dialect.ncp.fsm request.answer
    let next := dialect.advance st s header memory before o
    Measured (dialect.known s st) memory o ∧ next.nakSent = before.nakSent ∧
      request.reject header memory o =
        if next.answer.lost then .error request.st
        else .ok { request with answer := next.answer } := by
  intro before next
  have rejects : next =
      { before with answer := pppConfRej header request.answer (optionAt memory o) } := by
    simp only [next, Dialect.advance, networkActs, networkVerdict, unknown, ↓reduceIte, collect]
    rfl
  refine ⟨fun value known => ?_, ?_, ?_⟩
  · rw [unknown] at known
    cases known
  · rw [rejects]
  · rw [rejects]
    rfl

/-- IPCP insists on the address; it also knows two name servers. -/
def ipcpDialect : Dialect where
  ncp := ipcp
  option := ipcpOption
  known := Footprint.ipcpKnown
  address := 3
  insists := true

/-- IPV6CP knows the interface identifier. -/
def ipv6cpDialect : Dialect where
  ncp := ipv6cp
  option := ipv6cpOption
  known := Footprint.ipv6cpKnown
  address := 1
  insists := false

theorem Dialect.carries_reject (untouched : Untouched st request.st)
    (unknown : dialect.known s st (memory o).toNat = none)
    (lenient : dialect.strict memory o = false) :
    dialect.Outcome st s header memory request o request.gotip
      (request.reject header memory o) := by
  obtain ⟨measured, counted, rejects⟩ :=
    @reject_advance st s memory header o dialect request unknown
  rw [Dialect.Outcome, rejects]
  by_cases lost : (dialect.advance st s header memory
      (progress request.st s dialect.ncp.fsm request.answer) o).answer.lost = true
  · refine .inr ⟨fun passes => ?_, request.st, if_pos lost, .inl untouched.sent⟩
    rw [passes.2.1] at lost
    exact nomatch lost
  · refine .inl ⟨⟨measured, by simpa using lost, fun strict => ?_⟩, _, if_neg lost, untouched,
      congrArg (Progress.mk _) counted.symm, rfl⟩
    rw [lenient] at strict
    exact nomatch strict

/-- An option that is compared with a value is carried out, or it has another length, or there is
no room for a better one. -/
theorem Dialect.carries_expect {value : List UInt8} (untouched : Untouched st request.st)
    (kept : request.answer.lost = false)
    (known : dialect.known s st (memory o).toNat = some value)
    (lenient : dialect.strict memory o = false) :
    let asked := request.expect dialect.ncp.fsm s header memory o value
    dialect.Outcome st s header memory request o request.gotip
      (if declared memory o ≠ value.length + 2 then .error request.st
        else if asked.2 then .error asked.1.st else .ok asked.1) := by
  intro asked
  rw [Dialect.Outcome]
  by_cases measured : declared memory o = value.length + 2
  · obtain ⟨ends, advanced, further, same⟩ :=
      @expect_advance st s memory header o dialect request value untouched kept known measured
    have answer : (dialect.advance st s header memory
        (progress request.st s dialect.ncp.fsm request.answer) o).answer = asked.1.answer :=
      (congrArg Progress.answer advanced).symm
    rw [if_neg (not_not_intro measured)]
    by_cases lost : asked.2 = true
    · refine .inr ⟨fun passes => ?_, asked.1.st, if_pos lost, .inl further.sent⟩
      rw [ends, ← answer, passes.2.1] at lost
      exact nomatch lost
    · refine .inl ⟨⟨fun other known' => ?_, ?_, fun strict => ?_⟩, asked.1, if_neg lost, further,
        advanced, same⟩
      · rw [known] at known'
        rw [← Option.some.inj known', measured]
      · rw [answer, ← ends]
        simpa using lost
      · rw [lenient] at strict
        exact nomatch strict
  · exact .inr ⟨fun passes => measured (passes.1 value known), request.st, if_pos measured,
      .inl untouched.sent⟩

theorem declared_ne_iff (n : UInt8) : declared memory o ≠ n.toNat ↔ memory (o + 1) ≠ n := by
  rw [declared, Ne, Ne, not_iff_not, UInt8.toNat_inj]

theorem Dialect.strict_eq_false (other : dialect.isAddress memory o = false) :
    dialect.strict memory o = false := by
  rw [Dialect.strict, other, Bool.and_false]

theorem ipcp_carries_name {address : Nat} (untouched : Untouched st request.st)
    (kept : request.answer.lost = false)
    (known : ipcpDialect.known s st (memory o).toNat = some (bytes32 address))
    (name : ipcpDialect.isAddress memory o = false) :
    let asked := request.expect .ipcp s header memory o (bytes32 address)
    ipcpDialect.Outcome st s header memory request o request.gotip
      (if memory (o + 1) ≠ 6 then .error request.st
        else if asked.2 then .error asked.1.st else .ok asked.1) := by
  have carries := @Dialect.carries_expect st s memory header o ipcpDialect request
    (bytes32 address) untouched kept known (Dialect.strict_eq_false name)
  have same : declared memory o ≠ (bytes32 address).length + 2 ↔ memory (o + 1) ≠ 6 :=
    declared_ne_iff 6
  simp only [same] at carries
  exact carries

/-- The address of IPCP. -/
theorem ipcp_carries_address (untouched : Untouched st request.st)
    (kept : request.answer.lost = false) (type : (memory o).toNat = 3) :
    ipcpDialect.Outcome st s header memory request o true
      (ipcpOption s memory header request o) := by
  have strict : ipcpDialect.strict memory o = true := by
    simp [Dialect.strict, Dialect.isAddress, ipcpDialect, type]
  have known : ipcpDialect.known s st (memory o).toNat =
      some (bytes32 (st.session s).ip.toNat) := by
    rw [type]
    rfl
  have same : declared memory o ≠ (bytes32 (st.session s).ip.toNat).length + 2 ↔
      memory (o + 1) ≠ 6 :=
    declared_ne_iff 6
  rw [Dialect.Outcome]
  by_cases measured : declared memory o = (bytes32 (st.session s).ip.toNat).length + 2
  · have right : ¬ memory (o + 1) ≠ 6 := fun wrong => same.mpr wrong measured
    have compared := @expect_advance st s memory header o ipcpDialect
      { request with gotip := true } _ untouched kept known measured
    have insists : ipcpOption s memory header request o =
        let asked := Request.expect { request with gotip := true } ipcpDialect.ncp.fsm s header
          memory o (bytes32 (st.session s).ip.toNat)
        if asked.2 = true ∨ asked.1.answer ≠ request.answer ∧
            asked.1.answer.response.map Reply.code = some configRej then
          .error (sessionshutdown asked.1.st s "Can't negotiate IPCP." 3 0 (some .userError))
        else .ok asked.1 := by
      simp only [ipcpOption, type, if_neg right, untouched.session]
      rfl
    rw [insists]
    dsimp only at compared ⊢
    generalize Request.expect { request with gotip := true } ipcpDialect.ncp.fsm s header memory
      o (bytes32 (st.session s).ip.toNat) = asked at compared ⊢
    obtain ⟨ends, advanced, further, gotip⟩ := compared
    have passes : ipcpDialect.Passes st s header memory
        (progress request.st s ipcpDialect.ncp.fsm request.answer) o ↔
          ¬ (asked.2 = true ∨ asked.1.answer ≠ request.answer ∧
            asked.1.answer.response.map Reply.code = some configRej) := by
      have answer : (ipcpDialect.advance st s header memory
          (progress request.st s ipcpDialect.ncp.fsm request.answer) o).answer =
          asked.1.answer :=
        (congrArg Progress.answer advanced).symm
      have measures : Measured (ipcpDialect.known s st) memory o := by
        intro other known'
        rw [known] at known'
        rw [← Option.some.inj known', measured]
      rw [Dialect.Passes, and_iff_right measures, Goes, answer, ends, strict]
      simp only [true_imp_iff, not_or, Bool.not_eq_true, progress]
      tauto
    rw [passes]
    by_cases stops : asked.2 = true ∨ asked.1.answer ≠ request.answer ∧
        asked.1.answer.response.map Reply.code = some configRej
    · exact .inr ⟨not_not_intro stops, _, if_pos stops, .inr ⟨asked.1.st, _, further.sent, rfl⟩⟩
    · exact .inl ⟨stops, asked.1, if_neg stops, further, advanced, gotip⟩
  · refine .inr ⟨fun passes => measured (passes.1 _ known), request.st, ?_, .inl untouched.sent⟩
    have wrong := same.mp measured
    simp only [ipcpOption, type, if_pos wrong]

theorem ipcp_carries : ipcpDialect.Carries := by
  intro st s header memory request o untouched kept
  have isAddress : ipcpDialect.isAddress memory o = decide ((memory o).toNat = 3) := rfl
  change ipcpDialect.Outcome st s header memory request o _ (ipcpOption s memory header request o)
  by_cases address : (memory o).toNat = 3
  · rw [isAddress, decide_eq_true address, Bool.or_true]
    exact ipcp_carries_address untouched kept address
  rw [decide_eq_false address] at isAddress
  rw [isAddress, Bool.or_false]
  by_cases dns1 : (memory o).toNat = 129
  · have known : ipcpDialect.known s st (memory o).toNat =
        some (bytes32 (st.session s).dns1.toNat) := by
      rw [dns1]
      rfl
    simpa only [ipcpOption, dns1, untouched.session] using
      @ipcp_carries_name st s memory header o request _ untouched kept known isAddress
  by_cases dns2 : (memory o).toNat = 131
  · have known : ipcpDialect.known s st (memory o).toNat =
        some (bytes32 (st.session s).dns2.toNat) := by
      rw [dns2]
      rfl
    simpa only [ipcpOption, dns2, untouched.session] using
      @ipcp_carries_name st s memory header o request _ untouched kept known isAddress
  have unknown : ipcpDialect.known s st (memory o).toNat = none := by
    simp only [ipcpDialect, Footprint.ipcpKnown]
  have rejects : ipcpOption s memory header request o = request.reject header memory o := by
    simp only [ipcpOption]
  rw [rejects]
  exact Dialect.carries_reject untouched unknown (Dialect.strict_eq_false isAddress)

theorem ipv6cp_carries : ipv6cpDialect.Carries := by
  intro st s header memory request o untouched kept
  have lenient : ipv6cpDialect.strict memory o = false := rfl
  change ipv6cpDialect.Outcome st s header memory request o _
    (ipv6cpOption s memory header request o)
  by_cases address : memory o = 1
  · have known : ipv6cpDialect.known s st (memory o).toNat =
        some (interfaceIdent (st.session s)) := by
      rw [address]
      rfl
    have isAddress : ipv6cpDialect.isAddress memory o = true := by
      rw [Dialect.isAddress, address]
      rfl
    have long : (interfaceIdent (st.session s)).length + 2 = 10 := by
      rw [interfaceIdent]
      split <;> rfl
    have carries := @Dialect.carries_expect st s memory header o ipv6cpDialect
      { request with gotip := true } _ untouched kept known lenient
    have same : declared memory o ≠ 10 ↔ memory (o + 1) ≠ 10 := declared_ne_iff 10
    rw [long] at carries
    simp only [same] at carries
    rw [isAddress, Bool.or_true]
    simp only [ipv6cpOption, address, ↓reduceIte, untouched.session]
    exact carries
  · have unknown : ipv6cpDialect.known s st (memory o).toNat = none := by
      have other : (memory o).toNat ≠ 1 := fun one => address (UInt8.toNat_inj.mp one)
      simp [ipv6cpDialect, Footprint.ipv6cpKnown, other]
    have isAddress : ipv6cpDialect.isAddress memory o = false := by
      have other : (memory o).toNat ≠ 1 := fun one => address (UInt8.toNat_inj.mp one)
      simp [Dialect.isAddress, ipv6cpDialect, other]
    have rejects : ipv6cpOption s memory header request o = request.reject header memory o :=
      if_neg address
    rw [isAddress, Bool.or_false, rejects]
    exact Dialect.carries_reject untouched unknown lenient

namespace Dialect

variable (dialect)

/-- The options do not end the processing. -/
def Proceeds (st : State) (s header : Nat) (memory : Memory) : Progress → List Nat → Prop
  | _, [] => True
  | before, o :: rest =>
      dialect.Passes st s header memory before o ∧
        Proceeds st s header memory (dialect.advance st s header memory before o) rest

variable {dialect}

/-- The options that are seen are carried out one after the other. -/
theorem walk_outcome (carries : dialect.Carries) {fuel o x : Nat}
    (tiled : TiledFrom memory fuel o x) (whole : o + x = l) (untouched : Untouched st request.st)
    (kept : request.answer.lost = false) :
    let offsets := (tilesFrom memory fuel o x).filter (seen l)
    let start := progress request.st s dialect.ncp.fsm request.answer
    let result := Ncp.walk (dialect.option s memory header) memory fuel o x request
    (dialect.Proceeds st s header memory start offsets ∧ ∃ last, result = .ok last ∧
        Untouched st last.st ∧
        progress last.st s dialect.ncp.fsm last.answer =
          offsets.foldl (dialect.advance st s header memory) start ∧
        last.gotip = (request.gotip || offsets.any (dialect.isAddress memory))) ∨
      ¬ dialect.Proceeds st s header memory start offsets ∧ ∃ ended, result = .error ended ∧
        Ended s st ended := by
  induction fuel generalizing o x request with
  | zero =>
      refine .inl ⟨trivial, request, rfl, untouched, rfl, ?_⟩
      simp [tilesFrom]
  | succ fuel ih =>
      rcases tiled with none | ⟨two, fits, rest⟩
      · simp [tilesFrom, Ncp.walk, none, Proceeds, untouched]
      have some : x ≠ 0 := by omega
      by_cases short : x ≤ 2
      · have last : tilesFrom memory fuel (o + declared memory o) (x - declared memory o) = [] := by
          cases fuel with
          | zero => rfl
          | succ fuel => rw [tilesFrom, if_pos (by omega)]
        have unseen : seen l o = false := by
          rw [seen, decide_eq_false]
          omega
        have ends : Ncp.walk (dialect.option s memory header) memory (fuel + 1) o x request =
            .ok request := by
          rw [Ncp.walk]
          exact if_pos short
        rw [ends]
        simp [tilesFrom, some, last, unseen, Proceeds, untouched]
      have inside : seen l o = true := by
        rw [seen, decide_eq_true_eq]
        omega
      have fitting : ¬ (declared memory o = 0 ∨ x < declared memory o) := by omega
      have offsets : (tilesFrom memory (fuel + 1) o x).filter (seen l) =
          o :: (tilesFrom memory fuel (o + declared memory o) (x - declared memory o)).filter
            (seen l) := by
        rw [tilesFrom, if_neg some, List.filter_cons_of_pos inside]
      rw [offsets, Ncp.walk, show (memory (o + 1)).toNat = declared memory o from rfl,
        if_neg short, if_neg fitting]
      rcases carries st s header memory request o untouched kept with
        ⟨passes, next, carried, further, advanced, seesIp⟩ | ⟨stops, ended, stopped, unanswered⟩
      · have unlost : next.answer.lost = false :=
          (congrArg (fun progress => progress.answer.lost) advanced).trans passes.2.1
        have following := ih rest (by omega) further unlost
        rw [carried]
        dsimp only at following ⊢
        rw [advanced, seesIp] at following
        simpa [Proceeds, passes, Bool.or_assoc] using following
      · refine .inr ⟨fun proceeds => stops proceeds.1, ended, ?_, unanswered⟩
        rw [stopped]

end Dialect

end L2tpns.Answering
