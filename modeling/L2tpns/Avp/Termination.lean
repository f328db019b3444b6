import L2tpns.Avp.Memory

/-! # Termination of the loop over the attributes

The loop moves by the length field of the AVP it is at, and the length field may
be zero. Whether that matters depends on what is done with the AVP: one that is
refused with the mandatory bit ends the loop, any other is met again for ever. A
hidden AVP that is shorter than its header is deciphered over the end of the
receive buffer.

The positions the loop gets to are described on the received body alone
(`L2tpns.Avp.Walk`). The loop terminates exactly if none of them is at such an
AVP (`L2tpns.Avp.avpLoop_terminates`).
-/

namespace L2tpns.Avp

open Foundation

variable {config : Config} {room : Nat} {vector : List UInt8}

/-- The memories have the same bytes from `p` on. -/
def AgreeFrom (p : Nat) (memory other : Memory) : Prop := ∀ k, p ≤ k → memory k = other k

section Agree

variable {p b : Nat} {memory other : Memory}

theorem AgreeFrom.ntohs (agree : AgreeFrom p memory other) (behind : p ≤ b) :
    ntohs memory b = ntohs other b := by
  rw [Avp.ntohs, Avp.ntohs, agree b behind, agree (b + 1) (by omega)]

theorem AgreeFrom.readBytes (agree : AgreeFrom p memory other) (behind : p ≤ b) (n : Nat) :
    readBytes memory b n = readBytes other b n := by
  apply List.map_congr_left
  intro k _
  exact agree (b + k) (by omega)

theorem AgreeFrom.writeBytes (agree : AgreeFrom p memory other) (bytes : List UInt8) :
    AgreeFrom p (writeBytes memory b bytes) (writeBytes other b bytes) := by
  intro k behind
  rw [Avp.writeBytes, Avp.writeBytes, agree k behind]

theorem AgreeFrom.readHidden (agree : AgreeFrom p memory other) (behind : p ≤ b)
    (mtype n : Nat) :
    readHidden config room vector memory mtype b n =
      readHidden config room vector other mtype b n := by
  simp only [Avp.readHidden, agree.readBytes behind, (agree.writeBytes _).ntohs behind]

theorem AgreeFrom.readAvp (agree : AgreeFrom p memory other) (config : Config) (room : Nat)
    (vector : List UInt8) (n : Nat) :
    readAvp config room vector memory p n = readAvp config room vector other p n := by
  have flags := agree p (Nat.le_refl p)
  have vendor := agree.ntohs (b := p + 2) (by omega)
  have mtype := agree.ntohs (b := p + 4) (by omega)
  simp only [Avp.readAvp, flags, vendor, mtype, agree.readHidden (b := p + 6) (by omega)]

theorem AgreeFrom.mono (agree : AgreeFrom p memory other) (behind : p ≤ b) :
    AgreeFrom b memory other := fun k later => agree k (Nat.le_trans behind later)

end Agree

theorem unhideFrom_length (value : List UInt8) (digest : Fin 16 → UInt8) (d : Nat)
    (block : List UInt8) : (unhideFrom config value digest d block).length = value.length := by
  induction value generalizing digest d block with
  | nil => rfl
  | cons byte rest ih =>
      rw [unhideFrom]
      by_cases full : 16 ≤ d
      · simp only [full, ↓reduceIte, List.length_cons, ih]
      · simp only [full, ↓reduceIte, List.length_cons, ih]

theorem unhideValue_length (value : List UInt8) (mtype : Nat) :
    (unhideValue config value mtype vector).length = value.length :=
  unhideFrom_length value _ _ _

/-- The bytes that are written back. -/
def Reading.plain : Reading → List UInt8
  | .refused _ plain => plain
  | .overrun => []
  | .value _ _ _ plain => plain

theorem readHidden_plain (config : Config) (room : Nat) (vector : List UInt8) (memory : Memory)
    (mtype b n : Nat) :
    (readHidden config room vector memory mtype b n).plain = [] ∨
      (readHidden config room vector memory mtype b n).plain.length = n ∧ b + n ≤ room := by
  rw [readHidden]
  by_cases secret : config.l2tpSecret = []
  · simp only [secret, ↓reduceIte, Reading.plain, true_or]
  by_cases random : vector = []
  · simp only [secret, random, ↓reduceIte, Reading.plain, true_or]
  by_cases short : n < 8
  · simp only [secret, random, short, ↓reduceIte, Reading.plain, true_or]
  by_cases outside : room < b + n
  · simp only [secret, random, short, outside, ↓reduceIte, Reading.plain, true_or]
  · right
    simp only [secret, random, short, outside, ↓reduceIte]
    refine ⟨?_, by omega⟩
    split
    · rw [Reading.plain, unhideValue_length, readBytes_length]
    · rw [Reading.plain, unhideValue_length, readBytes_length]

theorem withoutHeader_of_le {n : Nat} (header : 6 ≤ n) (narrow : n < 2 ^ 10) :
    withoutHeader n = n - 6 := by
  rw [withoutHeader]
  omega

theorem withoutHeader_of_lt {n : Nat} (short : n < 6) : withoutHeader n = n + 65530 := by
  rw [withoutHeader]
  omega

section Cases

variable {memory : Memory} {p n : Nat}

theorem readAvp_reserved (reserved : memory p &&& 0x3C ≠ 0) :
    readAvp config room vector memory p n = .refused ⟨2, 3, none⟩ [] :=
  if_pos reserved

theorem readAvp_vendor (clear : ¬ memory p &&& 0x3C ≠ 0) (foreign : ntohs memory (p + 2) ≠ 0) :
    readAvp config room vector memory p n =
      .refused ⟨2, 6, some "unsupported vendor-specific"⟩ [] :=
  (if_neg clear).trans (if_pos foreign)

theorem readAvp_hidden (clear : ¬ memory p &&& 0x3C ≠ 0) (ietf : ¬ ntohs memory (p + 2) ≠ 0)
    (hidden : memory p &&& 0x40 ≠ 0) :
    readAvp config room vector memory p n =
      readHidden config room vector memory (ntohs memory (p + 4)) (p + 6) (withoutHeader n) :=
  (if_neg clear).trans ((if_neg ietf).trans (if_pos hidden))

theorem readAvp_open (clear : ¬ memory p &&& 0x3C ≠ 0) (ietf : ¬ ntohs memory (p + 2) ≠ 0)
    (visible : ¬ memory p &&& 0x40 ≠ 0) :
    readAvp config room vector memory p n =
      .value (ntohs memory (p + 4)) (p + 6) (withoutHeader n) [] :=
  (if_neg clear).trans ((if_neg ietf).trans (if_neg visible))

end Cases

/-- What is written back lies before the next AVP. -/
theorem readAvp_plain {n : Nat} (narrow : n < 2 ^ 10) (bounded : room ≤ bufferRoom)
    (config : Config) (vector : List UInt8) (memory : Memory) (p : Nat) :
    (readAvp config room vector memory p n).plain = [] ∨
      6 + (readAvp config room vector memory p n).plain.length ≤ n := by
  by_cases reserved : memory p &&& 0x3C ≠ 0
  · rw [readAvp_reserved reserved]
    exact .inl rfl
  by_cases foreign : ntohs memory (p + 2) ≠ 0
  · rw [readAvp_vendor reserved foreign]
    exact .inl rfl
  by_cases hidden : memory p &&& 0x40 ≠ 0
  · rw [readAvp_hidden reserved foreign hidden]
    rcases readHidden_plain config room vector memory
      (ntohs memory (p + 4)) (p + 6) (withoutHeader n) with nothing | ⟨whole, inside⟩
    · exact .inl nothing
    · right
      by_cases header : 6 ≤ n
      · rw [withoutHeader_of_le header narrow] at whole ⊢
        omega
      · rw [withoutHeader_of_lt (by omega)] at inside
        rw [bufferRoom] at bounded
        omega
  · rw [readAvp_open reserved foreign hidden]
    exact .inl rfl

theorem readAvp_keeps {n : Nat} (narrow : n < 2 ^ 10) (bounded : room ≤ bufferRoom)
    (config : Config) (vector : List UInt8) (memory : Memory) (p : Nat) :
    AgreeFrom (p + n)
      (writeBytes memory (p + 6) (readAvp config room vector memory p n).plain) memory := by
  intro k behind
  rcases readAvp_plain narrow bounded config vector memory p with
    nothing | inside
  · rw [nothing, writeBytes_nil]
  · exact writeBytes_beyond memory (by omega)

/-- A value lies behind the header. -/
theorem readAvp_behind {memory : Memory} {p n mtype b length : Nat} {plain : List UInt8}
    (read : readAvp config room vector memory p n = .value mtype b length plain) : p ≤ b := by
  by_cases reserved : memory p &&& 0x3C ≠ 0
  · rw [readAvp_reserved reserved] at read
    cases read
  by_cases foreign : ntohs memory (p + 2) ≠ 0
  · rw [readAvp_vendor reserved foreign] at read
    cases read
  by_cases hidden : memory p &&& 0x40 ≠ 0
  · rw [readAvp_hidden reserved foreign hidden] at read
    simp only [readHidden] at read
    split_ifs at read
    injection read with _ place
    omega
  · rw [readAvp_open reserved foreign hidden] at read
    injection read with _ place
    omega

/-- An AVP of length zero is never deciphered in the buffer, so if its value is
read, it was not hidden. -/
theorem readAvp_zero {memory : Memory} {p mtype b n : Nat} {plain : List UInt8}
    (bounded : room ≤ bufferRoom)
    (read : readAvp config room vector memory p 0 = .value mtype b n plain)
    (other : List UInt8) :
    readAvp config room other memory p 0 = .value mtype b n plain := by
  by_cases reserved : memory p &&& 0x3C ≠ 0
  · rw [readAvp_reserved reserved] at read
    cases read
  by_cases foreign : ntohs memory (p + 2) ≠ 0
  · rw [readAvp_vendor reserved foreign] at read
    cases read
  by_cases hidden : memory p &&& 0x40 ≠ 0
  · rw [readAvp_hidden reserved foreign hidden, readHidden] at read
    have outside : room < p + 6 + withoutHeader 0 := by
      rw [withoutHeader_of_lt (by omega)]
      rw [bufferRoom] at bounded
      omega
    simp only [outside, ↓reduceIte] at read
    split_ifs at read
  · rw [readAvp_open reserved foreign hidden] at read ⊢
    exact read

/-- The types that are accepted; the version is looked at. -/
def accepts (mtype value : Nat) : Bool :=
  if mtype = 2 then value = 0 || value = 0x0100
  else mtype ≤ 11 || [13, 14, 15, 18, 19, 36, 38, 39, 46].contains mtype ||
    21 ≤ mtype && mtype ≤ 33

theorem lastSentLcp_frame (memory : Memory) (e p : Nat) (attributes : Attributes) :
    (lastSentLcp memory e p attributes).fatal = attributes.fatal ∧
      (lastSentLcp memory e p attributes).randomVector = attributes.randomVector := by
  induction p, attributes using lastSentLcp.induct memory e with
  | case1 p attributes length more ih =>
      rw [lastSentLcp]
      simp only [length] at more
      simp only [more, and_self, not_false_eq_true, ↓reduceIte, ne_eq]
      split_ifs at ih ⊢ <;> exact ih
  | case2 p attributes length done =>
      rw [lastSentLcp, if_neg done]
      exact ⟨rfl, rfl⟩

theorem resultCode_frame (memory : Memory) (b n : Nat) (attributes : Attributes) :
    (resultCode memory b n attributes).fatal = attributes.fatal ∧
      (resultCode memory b n attributes).randomVector = attributes.randomVector := by
  rw [resultCode]
  split
  · split_ifs <;> exact ⟨rfl, rfl⟩
  · exact ⟨rfl, rfl⟩

theorem disconnectCause_frame (memory : Memory) (b n : Nat) (attributes : Attributes) :
    (disconnectCause memory b n attributes).fatal = attributes.fatal ∧
      (disconnectCause memory b n attributes).randomVector = attributes.randomVector := by
  rw [disconnectCause]
  split_ifs <;> exact ⟨rfl, rfl⟩

theorem protocolVersion_frame (flags : UInt8) (memory : Memory) (b : Nat)
    (attributes : Attributes) :
    (protocolVersion flags memory b attributes).fatal =
        (if accepts 2 (ntohs memory b) then attributes.fatal else flags) ∧
      (protocolVersion flags memory b attributes).randomVector = attributes.randomVector := by
  rw [protocolVersion]
  by_cases zero : ntohs memory b = 0
  · simp only [zero, ne_eq, not_true_eq_false, false_and, ↓reduceIte, accepts, decide_true,
      Bool.true_or, and_self]
  by_cases one : ntohs memory b = 0x0100
  · simp only [one, ne_eq, not_true_eq_false, and_false, ↓reduceIte, accepts, decide_true,
      Bool.or_true, and_self]
  · simp only [zero, one, ne_eq, not_false_eq_true, and_self, ↓reduceIte, accepts, decide_false,
      Bool.or_self, Bool.false_eq_true, Attributes.refuse]

theorem requestChallenge_frame (memory : Memory) (b n : Nat) (attributes : Attributes) :
    (requestChallenge config memory b n attributes).fatal = attributes.fatal ∧
      (requestChallenge config memory b n attributes).randomVector = attributes.randomVector := by
  rw [requestChallenge]
  split_ifs <;> exact ⟨rfl, rfl⟩

theorem challengeResponse_frame (memory : Memory) (b n : Nat) (attributes : Attributes) :
    (challengeResponse memory b n attributes).fatal = attributes.fatal ∧
      (challengeResponse memory b n attributes).randomVector = attributes.randomVector := by
  rw [challengeResponse]
  split_ifs <;> exact ⟨rfl, rfl⟩

theorem processAvp_spec (config : Config) (flags : UInt8) (mtype b n : Nat) (memory : Memory)
    (attributes : Attributes) :
    (processAvp config flags mtype b n memory attributes).fatal =
        (if accepts mtype (ntohs memory b) then attributes.fatal else flags) ∧
      (processAvp config flags mtype b n memory attributes).randomVector =
        if mtype = 36 then readBytes memory b (min n maxTel) else attributes.randomVector := by
  unfold processAvp
  split
  case h_2 => exact resultCode_frame memory b n attributes
  case h_3 => exact protocolVersion_frame flags memory b attributes
  case h_8 => exact requestChallenge_frame memory b n attributes
  case h_9 => exact challengeResponse_frame memory b n attributes
  case h_15 => exact lastSentLcp_frame memory (b + n) b attributes
  case h_17 => exact disconnectCause_frame memory b n attributes
  case h_35 =>
    simp only [imp_false] at *
    have vectorType : mtype ≠ 36 := by assumption
    have unknown : accepts mtype (ntohs memory b) = false := by
      rw [accepts, if_neg (by omega)]
      simp only [List.contains_eq_mem, List.mem_cons, List.not_mem_nil, or_false,
        Bool.or_eq_false_iff, decide_eq_false_iff_not, Bool.and_eq_false_iff]
      omega
    simp only [unknown, vectorType, Bool.false_eq_true, ↓reduceIte]
    exact ⟨rfl, rfl⟩
  all_goals exact ⟨rfl, rfl⟩

/-- What becomes of an AVP, with the random vector in force after it. -/
inductive Fate where
  | refused
  | overrun
  | accepted (vector : List UInt8)

/-- What becomes of the AVP at `p` of the received body. -/
def fate (config : Config) (body : ControlBody) (p : Nat) (vector : List UInt8) : Fate :=
  match readAvp config body.room vector body.memory p (avpLength body.memory p) with
  | .refused _ _ => .refused
  | .overrun => .overrun
  | .value mtype b n plain =>
      let memory := writeBytes body.memory (p + 6) plain
      if accepts mtype (ntohs memory b) then
        .accepted (if mtype = 36 then readBytes memory b (min n maxTel) else vector)
      else .refused

/-- A whole AVP begins at `p`. -/
def ControlBody.HasAvp (body : ControlBody) (p : Nat) : Prop :=
  p < body.length ∧ p + avpLength body.memory p ≤ body.length

/-- Positions reached from the start of the body by the length fields, over AVPs
that are accepted or refused without the mandatory bit; with the random vector. -/
inductive Walk (config : Config) (body : ControlBody) (random : List UInt8) :
    Nat → List UInt8 → Prop where
  | start : Walk config body random 0 random
  | optional {p : Nat} {vector : List UInt8} :
      Walk config body random p vector → body.HasAvp p → fate config body p vector = .refused →
        isMandatory (body.memory p) = false →
        Walk config body random (p + avpLength body.memory p) vector
  | accepted {p : Nat} {vector next : List UInt8} :
      Walk config body random p vector → body.HasAvp p →
        fate config body p vector = .accepted next →
        Walk config body random (p + avpLength body.memory p) next

/-- No AVP on the walk is deciphered over the end of the buffer, and one of length
zero is refused with the mandatory bit. -/
def ControlBody.Advances (config : Config) (body : ControlBody) (random : List UInt8) : Prop :=
  ∀ p vector, Walk config body random p vector → body.HasAvp p →
    fate config body p vector ≠ .overrun ∧
      (avpLength body.memory p = 0 →
        fate config body p vector = .refused ∧ isMandatory (body.memory p) = true)

/-- The loop comes to an end, and every iteration that another one follows
consumes at least one byte. -/
def Terminates (config : Config) (body : ControlBody) (endpoint : Endpoint) : Prop :=
  (∃ outcome, (avpLoop config body.room).Returns (.start body endpoint) outcome ∧
      outcome ≠ .overrun) ∧
    ∀ cursor next, (avpLoop config body.room).Reaches (.start body endpoint) cursor →
      (avpLoop config body.room).Continues cursor next → next.goesOn = true → next.l < cursor.l

/-- The cursor is at a position of the walk, and the bytes before it are all the
loop has rewritten. -/
structure Tracks (config : Config) (body : ControlBody) (random : List UInt8)
    (cursor : Cursor) : Prop where
  span : cursor.p + cursor.l = body.length
  agree : AgreeFrom cursor.p cursor.memory body.memory
  walk : isMandatory cursor.attributes.fatal = false →
    Walk config body random cursor.p cursor.attributes.randomVector

section Follow

variable {body : ControlBody} {random : List UInt8} {endpoint : Endpoint} {cursor next : Cursor}

theorem goesOn_iff :
    cursor.goesOn = true ↔ cursor.l ≠ 0 ∧ isMandatory cursor.attributes.fatal = false := by
  rw [Cursor.goesOn, Bool.and_eq_true, decide_eq_true_iff, Bool.not_eq_true']

theorem Tracks.start (config : Config) (body : ControlBody) (endpoint : Endpoint) :
    Tracks config body endpoint.randomVector (.start body endpoint) where
  span := Nat.zero_add _
  agree := fun _ _ => rfl
  walk := fun _ => .start

theorem Tracks.flags (tracks : Tracks config body random cursor) :
    cursor.memory cursor.p = body.memory cursor.p :=
  tracks.agree cursor.p (Nat.le_refl _)

theorem Tracks.avpLength (tracks : Tracks config body random cursor) :
    avpLength cursor.memory cursor.p = avpLength body.memory cursor.p := by
  rw [Avp.avpLength, Avp.avpLength, tracks.agree.ntohs (Nat.le_refl _)]

theorem Tracks.goesOn (tracks : Tracks config body random cursor) (avp : body.HasAvp cursor.p)
    (clear : isMandatory cursor.attributes.fatal = false) : cursor.goesOn = true := by
  have span := tracks.span
  have before := avp.1
  exact goesOn_iff.mpr ⟨by omega, clear⟩

/-- What an iteration that goes on does to the cursor, by the fate of its AVP. -/
structure Moves (config : Config) (body : ControlBody) (cursor next : Cursor) : Prop where
  p : next.p = cursor.p + avpLength body.memory cursor.p
  l : next.l = cursor.l - avpLength body.memory cursor.p
  agree : AgreeFrom next.p next.memory body.memory
  refused : fate config body cursor.p cursor.attributes.randomVector = .refused →
    next.attributes.fatal = body.memory cursor.p ∧
      next.attributes.randomVector = cursor.attributes.randomVector
  accepted : ∀ vector, fate config body cursor.p cursor.attributes.randomVector =
      .accepted vector →
    next.attributes.fatal = cursor.attributes.fatal ∧ next.attributes.randomVector = vector

theorem avpLength_lt (memory : Memory) (p : Nat) : avpLength memory p < 2 ^ 10 :=
  Nat.mod_lt _ (Nat.two_pow_pos 10)

/-- At an AVP the loop goes on, unless it writes over the end of the buffer. -/
theorem Tracks.iterate (tracks : Tracks config body random cursor) (goesOn : cursor.goesOn = true)
    (avp : body.HasAvp cursor.p) :
    (fate config body cursor.p cursor.attributes.randomVector = .overrun ∧
        iterate config body.room cursor = .inl .overrun) ∨
      fate config body cursor.p cursor.attributes.randomVector ≠ .overrun ∧
        ∃ next, iterate config body.room cursor = .inr next ∧ Moves config body cursor next := by
  have length := tracks.avpLength
  have fits : ¬ cursor.l < Avp.avpLength body.memory cursor.p := by
    have span := tracks.span
    have bound := avp.2
    omega
  have same := tracks.agree.readAvp config body.room cursor.attributes.randomVector
    (Avp.avpLength body.memory cursor.p)
  have keeps := readAvp_keeps (avpLength_lt body.memory cursor.p) body.room_le config
    cursor.attributes.randomVector cursor.memory cursor.p
  rw [same] at keeps
  have behind := tracks.agree.mono (Nat.le_add_right _ (Avp.avpLength body.memory cursor.p))
  simp only [Avp.iterate, goesOn, Bool.not_true, Bool.false_eq_true, ↓reduceIte, length, fits,
    same, tracks.flags]
  cases read : readAvp config body.room cursor.attributes.randomVector body.memory cursor.p
      (Avp.avpLength body.memory cursor.p) with
  | overrun => exact .inl ⟨by rw [fate, read], rfl⟩
  | refused refusal plain =>
      rw [read] at keeps
      have fated : fate config body cursor.p cursor.attributes.randomVector = .refused := by
        rw [fate, read]
      rw [fated]
      refine .inr ⟨nofun, _, rfl, rfl, rfl, fun k later => ?_, fun _ => ⟨rfl, rfl⟩, ?_⟩
      · exact (keeps k later).trans (behind k later)
      · rw [fated]
        exact nofun
  | value mtype b n plain =>
      rw [read] at keeps
      have inside := readAvp_behind read
      have written := tracks.agree.writeBytes (b := cursor.p + 6) plain
      have spec := processAvp_spec config (body.memory cursor.p) mtype b n
        (Avp.writeBytes cursor.memory (cursor.p + 6) plain) cursor.attributes
      rw [written.ntohs inside, written.readBytes inside] at spec
      have fated : fate config body cursor.p cursor.attributes.randomVector =
          if accepts mtype (ntohs (Avp.writeBytes body.memory (cursor.p + 6) plain) b) then
            .accepted (if mtype = 36 then
                readBytes (Avp.writeBytes body.memory (cursor.p + 6) plain) b (min n maxTel)
              else cursor.attributes.randomVector)
          else .refused := by
        rw [fate, read]
      rw [fated]
      by_cases accepted : accepts mtype
          (ntohs (Avp.writeBytes body.memory (cursor.p + 6) plain) b) = true
      · simp only [accepted, ↓reduceIte] at fated spec ⊢
        refine .inr ⟨nofun, _, rfl, rfl, rfl, fun k later => ?_, ?_, ?_⟩
        · exact (keeps k later).trans (behind k later)
        · rw [fated]
          exact nofun
        · intro vector same
          rw [fated] at same
          exact ⟨spec.1, spec.2.trans (Fate.accepted.inj same)⟩
      · have other : mtype ≠ 36 := by
          rintro rfl
          exact accepted rfl
        simp only [accepted, other, Bool.false_eq_true, ↓reduceIte] at fated spec ⊢
        refine .inr ⟨nofun, _, rfl, rfl, rfl, fun k later => ?_, fun _ => spec, ?_⟩
        · exact (keeps k later).trans (behind k later)
        · rw [fated]
          exact nofun

theorem iterate_avp (tracks : Tracks config body random cursor)
    (leaves : ∀ attributes, iterate config body.room cursor ≠ .inl (.processed attributes) ∧
      iterate config body.room cursor ≠ .inl (.invalidLength attributes)) :
    cursor.goesOn = true ∧ body.HasAvp cursor.p := by
  by_cases goesOn : cursor.goesOn = true
  · refine ⟨goesOn, ?_⟩
    have left := (goesOn_iff.mp goesOn).1
    have span := tracks.span
    by_cases short : cursor.l < Avp.avpLength cursor.memory cursor.p
    · refine absurd ?_ (leaves cursor.attributes).2
      simp only [Avp.iterate, goesOn, Bool.not_true, Bool.false_eq_true, ↓reduceIte, short]
    · rw [tracks.avpLength] at short
      exact ⟨by omega, by omega⟩
  · refine absurd ?_ (leaves cursor.attributes).1
    simp only [Avp.iterate, goesOn, Bool.not_false, ↓reduceIte]

theorem Continues.moves (tracks : Tracks config body random cursor)
    (continues : (avpLoop config body.room).Continues cursor next) :
    cursor.goesOn = true ∧ body.HasAvp cursor.p ∧
      fate config body cursor.p cursor.attributes.randomVector ≠ .overrun ∧
        Moves config body cursor next := by
  have step : Avp.iterate config body.room cursor = .inr next := continues
  obtain ⟨goesOn, avp⟩ := iterate_avp tracks fun attributes =>
    ⟨by rw [step]; exact nofun, by rw [step]; exact nofun⟩
  rcases tracks.iterate goesOn avp with ⟨_, overrun⟩ | ⟨within, other, step', moves⟩
  · cases step.symm.trans overrun
  · obtain rfl := Sum.inr.inj (step.symm.trans step')
    exact ⟨goesOn, avp, within, moves⟩

/-- One iteration keeps to the walk. -/
theorem Tracks.continues (tracks : Tracks config body random cursor)
    (continues : (avpLoop config body.room).Continues cursor next) :
    Tracks config body random next := by
  obtain ⟨goesOn, avp, within, moves⟩ := Continues.moves tracks continues
  have walk := tracks.walk (goesOn_iff.mp goesOn).2
  have span := tracks.span
  have fits := avp.2
  refine ⟨?_, moves.agree, fun open' => ?_⟩
  · rw [moves.p, moves.l]
    omega
  rw [moves.p]
  cases fated : fate config body cursor.p cursor.attributes.randomVector with
  | overrun => exact absurd fated within
  | refused =>
      obtain ⟨fatal, vector⟩ := moves.refused fated
      rw [vector]
      rw [fatal] at open'
      exact .optional walk avp fated open'
  | accepted vector =>
      rw [(moves.accepted vector fated).2]
      exact .accepted walk avp fated

theorem tracks_of_reaches
    (reached : (avpLoop config body.room).Reaches (.start body endpoint) cursor) :
    Tracks config body endpoint.randomVector cursor :=
  WhileLoop.Reaches.invariant (Tracks.start config body endpoint)
    (fun _ _ tracks => tracks.continues) reached

theorem isMandatory_zero : isMandatory 0 = false := by decide

theorem Walk.reached {p : Nat} {vector : List UInt8}
    (walk : Walk config body endpoint.randomVector p vector) :
    ∃ cursor, (avpLoop config body.room).Reaches (.start body endpoint) cursor ∧
      cursor.p = p ∧ cursor.attributes.randomVector = vector ∧
        isMandatory cursor.attributes.fatal = false := by
  induction walk with
  | start => exact ⟨_, .refl, rfl, rfl, isMandatory_zero⟩
  | optional walk avp fated optional ih =>
      obtain ⟨cursor, reached, rfl, rfl, clear⟩ := ih
      have tracks := tracks_of_reaches reached
      have goesOn := tracks.goesOn avp clear
      rcases tracks.iterate goesOn avp with ⟨overrun, _⟩ | ⟨_, next, step, moves⟩
      · cases fated.symm.trans overrun
      · obtain ⟨fatal, same⟩ := moves.refused fated
        exact ⟨next, .tail reached step, moves.p, same, fatal ▸ optional⟩
  | accepted walk avp fated ih =>
      obtain ⟨cursor, reached, rfl, rfl, clear⟩ := ih
      have tracks := tracks_of_reaches reached
      have goesOn := tracks.goesOn avp clear
      rcases tracks.iterate goesOn avp with ⟨overrun, _⟩ | ⟨_, next, step, moves⟩
      · cases fated.symm.trans overrun
      · obtain ⟨fatal, same⟩ := moves.accepted _ fated
        exact ⟨next, .tail reached step, moves.p, same, fatal ▸ clear⟩

/-- Twice the bytes left, and one more while no refusal ends the loop. -/
def Cursor.measure (cursor : Cursor) : Nat :=
  2 * cursor.l + if isMandatory cursor.attributes.fatal then 0 else 1

/-- Where the body advances, an iteration consumes a byte or is the last one. -/
theorem Tracks.consumes (advances : body.Advances config random)
    (tracks : Tracks config body random cursor)
    (continues : (avpLoop config body.room).Continues cursor next) :
    next.l < cursor.l ∨ next.l = cursor.l ∧ isMandatory cursor.attributes.fatal = false ∧
      isMandatory next.attributes.fatal = true := by
  obtain ⟨goesOn, avp, _, moves⟩ := Continues.moves tracks continues
  have clear := (goesOn_iff.mp goesOn).2
  have span := tracks.span
  have before := avp.1
  by_cases zero : Avp.avpLength body.memory cursor.p = 0
  · right
    obtain ⟨fated, mandatory⟩ := (advances _ _ (tracks.walk clear) avp).2 zero
    have fatal := (moves.refused fated).1
    refine ⟨?_, clear, fatal ▸ mandatory⟩
    rw [moves.l, zero, Nat.sub_zero]
  · left
    rw [moves.l]
    omega

theorem Tracks.measure_lt (advances : body.Advances config random)
    (tracks : Tracks config body random cursor)
    (continues : (avpLoop config body.room).Continues cursor next) :
    next.measure < cursor.measure := by
  rw [Cursor.measure, Cursor.measure]
  rcases tracks.consumes advances continues with fewer | ⟨same, clear, fatal⟩
  · split_ifs <;> omega
  · simp only [same, clear, fatal, ↓reduceIte, Bool.false_eq_true]
    omega

theorem terminates_of_advances (advances : body.Advances config endpoint.randomVector) :
    Terminates config body endpoint := by
  refine ⟨?_, fun cursor next reached continues goesOn => ?_⟩
  · obtain ⟨outcome, returns⟩ := WhileLoop.returns_of_measure Cursor.measure
      fun here there reached continues =>
        (tracks_of_reaches reached).measure_lt advances continues
    refine ⟨outcome, returns, ?_⟩
    rintro rfl
    obtain ⟨final, reached, overrun⟩ := returns.last
    have leaves : iterate config body.room final = .inl .overrun := overrun
    have tracks := tracks_of_reaches reached
    obtain ⟨goesOn, avp⟩ := iterate_avp tracks fun attributes =>
      ⟨by rw [leaves]; exact nofun, by rw [leaves]; exact nofun⟩
    have within := (advances _ _ (tracks.walk (goesOn_iff.mp goesOn).2) avp).1
    rcases tracks.iterate goesOn avp with ⟨fated, _⟩ | ⟨_, next, step, _⟩
    · exact within fated
    · cases leaves.symm.trans step
  · have clear := (goesOn_iff.mp goesOn).2
    rcases (tracks_of_reaches reached).consumes advances continues with fewer | ⟨_, _, fatal⟩
    · exact fewer
    · rw [clear] at fatal
      cases fatal

/-- At an AVP of length zero that does not end the loop. -/
structure Caught (config : Config) (body : ControlBody) (random : List UInt8) (p : Nat)
    (cursor : Cursor) : Prop where
  tracks : Tracks config body random cursor
  here : cursor.p = p
  clear : isMandatory cursor.attributes.fatal = false
  within : fate config body p cursor.attributes.randomVector ≠ .overrun
  passes : fate config body p cursor.attributes.randomVector = .refused →
    isMandatory (body.memory p) = false

theorem fate_accepted_again {p : Nat} {vector next : List UInt8}
    (zero : avpLength body.memory p = 0) (fated : fate config body p vector = .accepted next) :
    ∃ again, fate config body p next = .accepted again := by
  rw [fate] at fated
  split at fated
  · cases fated
  · cases fated
  · rename_i mtype b n plain read
    rw [zero] at read
    by_cases accepted : accepts mtype (ntohs (writeBytes body.memory (p + 6) plain) b) = true
    · rw [fate, zero, readAvp_zero body.room_le read next]
      simp only [accepted, ↓reduceIte, Fate.accepted.injEq, exists_eq']
    · simp only [accepted, Bool.false_eq_true, ↓reduceIte, reduceCtorEq] at fated

theorem Caught.continues {p : Nat} (avp : body.HasAvp p) (zero : avpLength body.memory p = 0)
    (caught : Caught config body random p cursor) :
    ∃ next, (avpLoop config body.room).Continues cursor next ∧
      Caught config body random p next := by
  obtain ⟨tracks, rfl, clear, within, passes⟩ := caught
  rcases tracks.iterate (tracks.goesOn avp clear) avp with ⟨overrun, _⟩ | ⟨_, next, step, moves⟩
  · exact absurd overrun within
  have follows : Tracks config body random next := tracks.continues step
  have here : next.p = cursor.p := by rw [moves.p, zero, Nat.add_zero]
  refine ⟨next, step, ?_⟩
  cases fated : fate config body cursor.p cursor.attributes.randomVector with
  | overrun => exact absurd fated within
  | refused =>
      obtain ⟨fatal, vector⟩ := moves.refused fated
      exact ⟨follows, here, fatal ▸ passes fated, vector ▸ within, fun _ => passes fated⟩
  | accepted vector =>
      obtain ⟨fatal, same⟩ := moves.accepted vector fated
      obtain ⟨again, fatedAgain⟩ := fate_accepted_again zero fated
      refine ⟨follows, here, fatal ▸ clear, ?_, ?_⟩
      · rw [same, fatedAgain]
        exact nofun
      · rw [same, fatedAgain]
        exact nofun

/-- The walk of a body on which the loop terminates is never caught. -/
theorem advances_of_terminates (terminates : Terminates config body endpoint) :
    body.Advances config endpoint.randomVector := by
  obtain ⟨⟨outcome, returns, regular⟩, _⟩ := terminates
  intro p vector walk avp
  obtain ⟨cursor, reached, rfl, rfl, clear⟩ := walk.reached
  have tracks := tracks_of_reaches reached
  have left := returns.reached reached
  have within : fate config body cursor.p cursor.attributes.randomVector ≠ .overrun := by
    intro fated
    rcases tracks.iterate (tracks.goesOn avp clear) avp with ⟨_, overrun⟩ | ⟨within, _⟩
    · exact regular (left.unique overrun)
    · exact within fated
  refine ⟨within, fun zero => ?_⟩
  by_contra stuck
  have passes : fate config body cursor.p cursor.attributes.randomVector = .refused →
      isMandatory (body.memory cursor.p) = false := by
    intro fated
    by_contra mandatory
    exact stuck ⟨fated, Bool.not_eq_false _ ▸ mandatory⟩
  exact WhileLoop.not_returns_of_trap (fun _ caught => Caught.continues avp zero caught)
    ⟨tracks, rfl, clear, within, passes⟩ left

end Follow

/-- The loop over the AVPs of a body terminates exactly if every AVP on its walk
that has length zero is refused with the mandatory bit, and none is deciphered over
the end of the receive buffer. -/
theorem avpLoop_terminates (config : Config) (body : ControlBody) (endpoint : Endpoint) :
    Terminates config body endpoint ↔ body.Advances config endpoint.randomVector :=
  ⟨advances_of_terminates, terminates_of_advances⟩

/-- A body of one AVP of length zero, with a reserved bit and not mandatory. -/
def reservedBody : ControlBody where
  memory := fun k => if k = 0 then 0x04 else 0
  length := 2
  room := bufferRoom
  length_lt := by decide
  room_le := Nat.le_refl _

/-- An endpoint of a tunnel without a name or a random vector. -/
def plainEndpoint : Endpoint where
  hostname := []
  vendor := []
  tunnelFar := 0
  isremotelns := false
  channel := ⟨0, 4, 0, 0, 0, 0, 0, 0, []⟩
  sessionFar := 0
  randomVector := []
  txConnectSpeed := 0
  rxConnectSpeed := 0

/-- The loop never leaves the reserved AVP of length zero. -/
theorem avpLoop_reserved : ¬ Terminates ⟨[], fun _ _ => 0⟩ reservedBody plainEndpoint := by
  intro terminates
  have avp : reservedBody.HasAvp 0 := ⟨by decide, by decide⟩
  obtain ⟨_, mandatory⟩ := (advances_of_terminates terminates 0 [] .start avp).2 rfl
  cases mandatory

end L2tpns.Avp
