import L2tpns.L2tp.Preservation
import L2tpns.Pppoe.Teardown

/-! # Discovery inside its bounds

The loops over the tags of a request look at headers before they know that a header is there, and
one of them does not compare a tag with the length of the frame at all. The answers are as long
as the tags that are copied make them. Handling a frame stays inside of what was received and of
the buffer of the answer exactly if the tags of the request let it
(`L2tpns.Pppoe.discovery_bounded_iff`).
-/

namespace L2tpns.Pppoe

open Foundation
open Avp (Memory ntohs readBytes readBytes_append readBytes_congr readBytes_length writeBytes
  writeBytes_inside writeBytes_outside)
open L2tp (ntohs_putWord putWord putWord_outside setupHeader setupHeader_length)
open Server (bytes16)

/-- An answer that was read from the frame received, fits its buffer, and has the length of its
tags. -/
structure Pack.Sound (pack : Pack) : Prop where
  inside : pack.inside
  fits : pack.fits
  length : ntohs pack.memory 18 = pack.tags.flatten.length
  content : readBytes pack.memory 20 pack.tags.flatten.length = pack.tags.flatten

/-- What building an answer keeps: it fits if its tags do, and if so they are in the buffer. -/
structure Pack.Built (pack : Pack) : Prop where
  fits_iff : pack.fits ↔ 20 + pack.tags.flatten.length ≤ etherMaxLen
  length : pack.fits → ntohs pack.memory 18 = pack.tags.flatten.length
  content : pack.fits → readBytes pack.memory 20 pack.tags.flatten.length = pack.tags.flatten

theorem Pack.Built.sound_iff {pack : Pack} (built : pack.Built) :
    pack.Sound ↔ pack.inside ∧ 20 + pack.tags.flatten.length ≤ etherMaxLen := by
  constructor
  · exact fun sound => ⟨sound.inside, built.fits_iff.mp sound.fits⟩
  · intro ⟨inside, short⟩
    have fits := built.fits_iff.mpr short
    exact ⟨inside, fits, built.length fits, built.content fits⟩

theorem start_built (config : Config) (dst : Vector UInt8 6) (code : UInt8) (sid : Nat) :
    (Pack.start config dst code sid).Built := by
  have size := setupHeader_length config.pppoeHwaddr dst code sid ethPPppDisc
  refine ⟨?_, fun _ => ?_, fun _ => rfl⟩
  · simp [Pack.start, etherMaxLen]
  · have high := @writeBytes_inside (fun _ => 0) 0 (setupHeader config.pppoeHwaddr dst code sid
      ethPPppDisc) 18 (by omega)
    have low := @writeBytes_inside (fun _ => 0) 0 (setupHeader config.pppoeHwaddr dst code sid
      ethPPppDisc) 19 (by omega)
    rw [Nat.zero_add] at high low
    change ntohs (writeBytes _ 0 _) 18 = 0
    rw [ntohs, high, low]
    simp [setupHeader, bytes16]

theorem append_built {pack : Pack} (built : pack.Built) (tag : List UInt8) :
    (pack.append tag).Built := by
  have total : (pack.append tag).tags.flatten = pack.tags.flatten ++ tag := by
    simp [Pack.append]
  by_cases fits : pack.fits
  · have length := built.length fits
    have bound := built.fits_iff.mp fits
    rw [etherMaxLen] at bound
    have now : (pack.append tag).fits ↔ 20 + (pack.tags.flatten ++ tag).length ≤ etherMaxLen := by
      simp [Pack.append, fits, length, Nat.add_assoc]
    refine ⟨by rw [total, now], fun fitting => ?_, fun fitting => ?_⟩
    · have short := now.mp fitting
      rw [List.length_append, etherMaxLen] at short
      rw [total, List.length_append, Pack.append, length]
      exact ntohs_putWord (by omega)
    · rw [total, List.length_append, readBytes_append, Pack.append, length]
      have before : readBytes (putWord (writeBytes pack.memory (20 + pack.tags.flatten.length) tag)
          18 (pack.tags.flatten.length + tag.length)) 20 pack.tags.flatten.length =
            pack.tags.flatten := by
        refine (readBytes_congr fun k inside => ?_).trans (built.content fits)
        rw [putWord_outside (by omega), writeBytes_outside _ (by omega)]
      have behind : readBytes (putWord (writeBytes pack.memory (20 + pack.tags.flatten.length) tag)
          18 (pack.tags.flatten.length + tag.length)) (20 + pack.tags.flatten.length) tag.length =
            tag := by
        have read := Avp.readBytes_writeBytes pack.memory (20 + pack.tags.flatten.length) [] tag []
        rw [List.nil_append, List.append_nil, List.length_nil, Nat.add_zero] at read
        refine (readBytes_congr fun k inside => ?_).trans read
        rw [putWord_outside (by omega)]
      rw [before, behind]
  · have long : ¬ 20 + pack.tags.flatten.length ≤ etherMaxLen := fun short =>
      fits (built.fits_iff.mpr short)
    have still : ¬ (pack.append tag).fits := by simp [Pack.append, fits]
    refine ⟨?_, fun fitting => absurd fitting still, fun fitting => absurd fitting still⟩
    rw [total, List.length_append]
    exact ⟨fun fitting => absurd fitting still, fun short => absurd (by omega) long⟩

section

variable {config : Config} {tags : TagList} {size : Nat} {pack : Pack}

theorem tagBytes_length (n : Nat) : (tagBytes tags n).length = 4 + tags.length n := by
  rw [tagBytes, readBytes_length]

/-- The bytes that a copied tag takes, if there is one. -/
def copySize (tags : TagList) (tag : Option Nat) : Nat := tag.elim 0 fun n => 4 + tags.length n

/-- The tags that were found are inside of the frame. -/
def AllWhole (tags : TagList) (size : Nat) (copied : List (Option Nat)) : Prop :=
  ∀ tag ∈ copied, ∀ n ∈ tag, Whole tags size n

theorem addTag_built (built : pack.Built) (type : Nat) (data : List UInt8) :
    (addTag pack type data).Built :=
  append_built built _

theorem addFound_built (built : pack.Built) (tag : Option Nat) :
    (addFound tags size pack tag).Built := by
  cases tag with
  | none => exact built
  | some n =>
      have appended := append_built built (tagBytes tags n)
      exact ⟨appended.fits_iff, appended.length, appended.content⟩

theorem addFound_inside (tag : Option Nat) :
    (addFound tags size pack tag).inside ↔ pack.inside ∧ ∀ n ∈ tag, Whole tags size n := by
  cases tag <;> simp [addFound, addTag2]

theorem addFound_length (tag : Option Nat) :
    (addFound tags size pack tag).tags.flatten.length =
      pack.tags.flatten.length + copySize tags tag := by
  cases tag with
  | none => rfl
  | some n =>
      change (pack.tags ++ [tagBytes tags n]).flatten.length = _
      rw [List.flatten_append, List.length_append, List.flatten_singleton, tagBytes_length]
      rfl

theorem addTag_inside (type : Nat) (data : List UInt8) :
    (addTag pack type data).inside = pack.inside := rfl

theorem addTag_length (type : Nat) (data : List UInt8) :
    (addTag pack type data).tags.flatten.length = pack.tags.flatten.length + (4 + data.length) := by
  change (pack.tags ++ [bytes16 type ++ bytes16 data.length ++ data]).flatten.length = _
  rw [List.flatten_append, List.length_append, List.flatten_singleton, List.length_append]
  rfl

/-- The bytes that the tags of an answer take, of which `fixed` are of its own tags besides the
name of the server. -/
def answerSize (config : Config) (tags : TagList) (fixed : Nat)
    (copied : List (Option Nat)) : Nat :=
  4 + config.pppoeAcName.length + fixed + (copied.map (copySize tags)).sum

/-- The copied tags are inside of the frame, and the answer fits its buffer. -/
def AnswerSound (config : Config) (tags : TagList) (size fixed : Nat)
    (copied : List (Option Nat)) : Prop :=
  AllWhole tags size copied ∧ 20 + answerSize config tags fixed copied ≤ etherMaxLen

variable {addr : Vector UInt8 6} {hostUniq relaySid serviceName : Option Nat}

theorem start_inside (dst : Vector UInt8 6) (code : UInt8) (sid : Nat) :
    (Pack.start config dst code sid).inside := rfl

theorem start_length (dst : Vector UInt8 6) (code : UInt8) (sid : Nat) :
    (Pack.start config dst code sid).tags.flatten.length = 0 := rfl

theorem pppoeSendErr_sound (code : UInt8) (tagType : Nat) :
    (pppoeSendErr config tags size addr hostUniq relaySid code tagType).Sound ↔
      AnswerSound config tags size 4 [hostUniq, relaySid] := by
  have built : (pppoeSendErr config tags size addr hostUniq relaySid code tagType).Built :=
    addFound_built (addFound_built (addTag_built (addTag_built (start_built ..) _ _) _ _) _) _
  rw [built.sound_iff, AnswerSound, answerSize]
  simp only [pppoeSendErr, addFound_inside, addFound_length, addTag_inside, addTag_length,
    start_inside, start_length, AllWhole, List.forall_mem_cons, List.map_cons, List.sum_cons]
  simp [Nat.add_assoc]

theorem pppoeSendPado_sound :
    (pppoeSendPado config tags size addr hostUniq relaySid serviceName).Sound ↔
      AnswerSound config tags size 20 [serviceName, hostUniq, relaySid] := by
  have built : (pppoeSendPado config tags size addr hostUniq relaySid serviceName).Built :=
    addFound_built (addFound_built (addTag_built (addFound_built (addTag_built (start_built ..)
      _ _) _) _ _) _) _
  rw [built.sound_iff, AnswerSound, answerSize]
  simp only [pppoeSendPado, addFound_inside, addFound_length, addTag_inside, addTag_length,
    start_inside, start_length, AllWhole, List.forall_mem_cons, List.map_cons, List.sum_cons]
  have cookie : (pppoeGenCookie config config.pppoeHwaddr addr).length = 16 := by
    simp [pppoeGenCookie]
  rw [cookie]
  have order : 20 + (0 + (4 + config.pppoeAcName.length) + copySize tags serviceName + (4 + 16) +
      copySize tags hostUniq + copySize tags relaySid) =
        20 + (4 + config.pppoeAcName.length + 20 + (copySize tags serviceName +
          (copySize tags hostUniq + (copySize tags relaySid + 0)))) := by
    omega
  rw [order]
  simp [and_assoc]

theorem pppoeSendPads_sound {sid n : Nat} :
    (pppoeSendPads config tags size sid addr hostUniq relaySid (some n)).Sound ↔
      AnswerSound config tags size 0 [some n, hostUniq, relaySid] := by
  have built : (pppoeSendPads config tags size sid addr hostUniq relaySid (some n)).Built :=
    addFound_built (addFound_built (addFound_built (addTag_built (start_built ..) _ _) (some n))
      _) _
  rw [built.sound_iff, AnswerSound, answerSize]
  have offered : pppoeSendPads config tags size sid addr hostUniq relaySid (some n) =
      addFound tags size (addFound tags size (addFound tags size
        (addTag (Pack.start config addr codePads sid) tagAcName config.pppoeAcName) (some n))
          hostUniq) relaySid := rfl
  simp only [offered, addFound_inside, addFound_length, addTag_inside, addTag_length,
    start_inside, start_length, AllWhole, List.forall_mem_cons, List.map_cons, List.sum_cons]
  simp [Nat.add_assoc, and_assoc]

/-- The last tag of a type. -/
def taken (tags : TagList) (type : Nat) : Option Nat :=
  TagList.latest (fun n => tags.type n = type) (tags.visited 0)

/-- A service name that a PADI is answered for. -/
def OffersName (config : Config) (tags : TagList) (n : Nat) : Prop :=
  tags.type n = tagServiceName ∧
    ¬ (config.pppoeOnlyEqualSvcName ∧ config.pppoeServiceName ≠ [] ∧ tags.length n = 0) ∧
    (config.pppoeServiceName ≠ [] ∧ tags.length n ≠ 0 → sameName config tags n)

instance (config : Config) (tags : TagList) (n : Nat) : Decidable (OffersName config tags n) :=
  inferInstanceAs (Decidable (_ ∧ _))

def GrantsName (config : Config) (tags : TagList) (n : Nat) : Prop :=
  tags.type n = tagServiceName ∧
    (tags.length n ≠ 0 → config.pppoeServiceName ≠ [] → sameName config tags n)

/-- A service name whose value is compared with the configured one. -/
def ComparesName (config : Config) (tags : TagList) (n : Nat) : Prop :=
  tags.type n = tagServiceName ∧ tags.length n ≠ 0 ∧ config.pppoeServiceName ≠ [] ∧
    tags.length n = config.pppoeServiceName.length

variable {found : Found} {n : Nat}

theorem note_inside {within : Prop} [Decidable within] :
    (found.note within).inside ↔ found.inside ∧ within := by
  simp [Found.note]

theorem padiTag_kept :
    (padiTag config tags size found n).hostUniq =
        (if tags.type n = tagHostUniq then some n else found.hostUniq) ∧
      (padiTag config tags size found n).relaySid =
        if tags.type n = tagRelaySessionId then some n else found.relaySid := by
  unfold padiTag padiName
  split_ifs <;> simp_all [tagServiceName, tagHostUniq, tagRelaySessionId, Found.compare, Found.note]

theorem padiTag_serviceName :
    (padiTag config tags size found n).serviceName =
      if OffersName config tags n then some n else found.serviceName := by
  unfold padiTag
  by_cases name : tags.type n = tagServiceName
  · rw [if_pos name, padiName]
    simp only [OffersName, name, true_and]
    split_ifs <;> first | rfl | simp_all
  · have none : ¬ OffersName config tags n := fun offers => name offers.1
    rw [if_neg name]
    simp only [none, if_false]
    split_ifs <;> rfl

theorem padiTag_serviceMatch :
    (padiTag config tags size found n).serviceMatch ↔
      found.serviceMatch ∨ OffersName config tags n := by
  unfold padiTag
  by_cases name : tags.type n = tagServiceName
  · rw [if_pos name, padiName]
    simp only [OffersName, name, true_and]
    split_ifs <;> simp_all [Found.compare, Found.note]
  · have none : ¬ OffersName config tags n := fun offers => name offers.1
    rw [if_neg name]
    split_ifs <;> simp [none]

theorem whole_of_fits (declared : tags.base + tags.size ≤ size) (fits : tags.Fits n) :
    Whole tags size n := by
  rw [TagList.Fits] at fits
  rw [Whole]
  omega

theorem padiTag_inside (whole : Whole tags size n) :
    (padiTag config tags size found n).inside ↔ found.inside := by
  unfold padiTag
  split_ifs
  · unfold padiName
    split_ifs <;> simp [Found.compare, Found.note, whole]
  all_goals rfl

theorem padrTag_kept :
    (padrTag config tags size found n).hostUniq =
        (if tags.type n = tagHostUniq then some n else found.hostUniq) ∧
      (padrTag config tags size found n).relaySid =
        (if tags.type n = tagRelaySessionId then some n else found.relaySid) ∧
      (padrTag config tags size found n).acCookie =
        (if tags.type n = tagAcCookie then some n else found.acCookie) ∧
      (padrTag config tags size found n).serviceName =
        if tags.type n = tagServiceName then some n else found.serviceName := by
  unfold padrTag padrName
  simp only
  split_ifs <;> simp_all [tagServiceName, tagHostUniq, tagAcCookie, tagRelaySessionId,
    Found.compare, Found.note, lookTag]

theorem padrTag_serviceMatch :
    (padrTag config tags size found n).serviceMatch ↔
      found.serviceMatch ∨ GrantsName config tags n := by
  unfold padrTag
  by_cases name : tags.type n = tagServiceName
  · simp only [GrantsName, name, true_and]
    unfold padrName
    simp only
    split_ifs <;> simp_all [Found.compare, Found.note, lookTag]
  · have none : ¬ GrantsName config tags n := fun grants => name grants.1
    simp only [if_neg name]
    split_ifs <;> simp [none, lookTag, Found.note]

theorem compare_inside :
    (found.compare config tags size n).inside ↔ found.inside ∧
      (tags.length n = config.pppoeServiceName.length → Whole tags size n) :=
  note_inside

theorem padrName_inside :
    (padrName config tags size found n).inside ↔ found.inside ∧
      (tags.length n ≠ 0 → config.pppoeServiceName ≠ [] →
        tags.length n = config.pppoeServiceName.length → Whole tags size n) := by
  unfold padrName
  by_cases empty : tags.length n = 0
  · simp [empty]
  · by_cases configured : config.pppoeServiceName = []
    · simp [empty, configured]
    · simp only [ne_eq, empty, configured, not_false_eq_true, if_true, if_false, forall_const]
      split_ifs
      · exact compare_inside
      · exact compare_inside

theorem padrTag_inside :
    (padrTag config tags size found n).inside ↔
      found.inside ∧ tags.base + n + 4 ≤ size ∧
        (ComparesName config tags n → Whole tags size n) := by
  unfold padrTag
  have looked : (lookTag tags size found n).inside ↔
      found.inside ∧ tags.base + n + 4 ≤ size := note_inside
  by_cases name : tags.type n = tagServiceName
  · simp only [ComparesName, name, true_and, if_true]
    rw [padrName_inside, looked, and_assoc]
    simp only [and_imp]
  · have none : ¬ ComparesName config tags n := fun compares => name compares.1
    simp only [if_neg name]
    split_ifs <;> simpa [none] using looked

/-- The last service name that a PADI is answered for. -/
def offered (config : Config) (tags : TagList) : Option Nat :=
  TagList.latest (fun n => OffersName config tags n) (tags.visited 0)

theorem padi_found (fits : ∀ n ∈ tags.visited 0, tags.Fits n) :
    let found := (tags.scan (lookTag tags size) (padiTag config tags size) .initial 0).1
    found.hostUniq = taken tags tagHostUniq ∧ found.relaySid = taken tags tagRelaySessionId ∧
      found.serviceName = offered config tags ∧
      (found.serviceMatch ↔ ∃ n ∈ tags.visited 0, OffersName config tags n) := by
  rw [TagList.scan_eq fits]
  refine ⟨?_, ?_, ?_, ?_⟩
  · refine (TagList.foldl_latest Found.hostUniq (fun found n => ?_)).trans (Option.or_none)
    simp [padiTag_kept.1, lookTag, Found.note]
  · refine (TagList.foldl_latest Found.relaySid (fun found n => ?_)).trans (Option.or_none)
    simp [padiTag_kept.2, lookTag, Found.note]
  · refine (TagList.foldl_latest Found.serviceName (fun found n => ?_)).trans (Option.or_none)
    simp [padiTag_serviceName, lookTag, Found.note]
  · have sets (found : Found) (n : Nat) :
        (padiTag config tags size (lookTag tags size found n) n).serviceMatch ↔
          found.serviceMatch ∨ OffersName config tags n := padiTag_serviceMatch
    refine (TagList.foldl_flag (fun found : Found => found.serviceMatch = true) sets).trans ?_
    simp [Found.initial]

theorem padi_inside (declared : tags.base + tags.size ≤ size) :
    (tags.scan (lookTag tags size) (padiTag config tags size) .initial 0).1.inside ↔
      ∀ n ∈ tags.visited 0, tags.base + n + 4 ≤ size := by
  have looks (found : Found) (n : Nat) :
      (lookTag tags size found n).inside ↔ found.inside ∧ tags.base + n + 4 ≤ size := note_inside
  have keeps (found : Found) (n : Nat) (fits : tags.Fits n) :
      (padiTag config tags size found n).inside ↔ found.inside :=
    padiTag_inside (whole_of_fits declared fits)
  refine (TagList.scan_all (fun found : Found => found.inside = true) looks keeps).trans ?_
  simp [Found.initial]

theorem padr_found :
    let found := tags.walk (padrTag config tags size) .initial 0
    found.hostUniq = taken tags tagHostUniq ∧ found.relaySid = taken tags tagRelaySessionId ∧
      found.acCookie = taken tags tagAcCookie ∧ found.serviceName = taken tags tagServiceName ∧
      (found.serviceMatch ↔ ∃ n ∈ tags.visited 0, GrantsName config tags n) ∧
      (found.inside ↔ ∀ n ∈ tags.visited 0, tags.base + n + 4 ≤ size ∧
        (ComparesName config tags n → Whole tags size n)) := by
  rw [TagList.walk_eq]
  refine ⟨?_, ?_, ?_, ?_, ?_, ?_⟩
  · refine (TagList.foldl_latest Found.hostUniq (fun found n => ?_)).trans (Option.or_none)
    simp [padrTag_kept.1]
  · refine (TagList.foldl_latest Found.relaySid (fun found n => ?_)).trans (Option.or_none)
    simp [padrTag_kept.2.1]
  · refine (TagList.foldl_latest Found.acCookie (fun found n => ?_)).trans (Option.or_none)
    simp [padrTag_kept.2.2.1]
  · refine (TagList.foldl_latest Found.serviceName (fun found n => ?_)).trans (Option.or_none)
    simp [padrTag_kept.2.2.2]
  · have sets (found : Found) (n : Nat) :
        (padrTag config tags size found n).serviceMatch ↔
          found.serviceMatch ∨ GrantsName config tags n := padrTag_serviceMatch
    refine (TagList.foldl_flag (fun found : Found => found.serviceMatch = true) sets).trans ?_
    simp [Found.initial]
  · have sets (found : Found) (n : Nat) (_ : n ∈ tags.visited 0) :
        (padrTag config tags size found n).inside ↔
          found.inside ∧ tags.base + n + 4 ≤ size ∧
            (ComparesName config tags n → Whole tags size n) := padrTag_inside
    refine (TagList.foldl_all (fun found : Found => found.inside = true) sets).trans ?_
    simp [Found.initial]

theorem taken_of_grants (grants : ∃ n ∈ tags.visited 0, GrantsName config tags n) :
    ∃ n, taken tags tagServiceName = some n := by
  obtain ⟨n, member, named, -⟩ := grants
  have some : ((tags.visited 0).filter fun n => tags.type n = tagServiceName) ≠ [] :=
    List.ne_nil_of_mem (List.mem_filter.mpr ⟨member, decide_eq_true named⟩)
  exact ⟨_, List.getLast?_eq_some_getLast some⟩

/-- What was read is inside of the frame, and every answer is sound. -/
structure Handled.Bounded (handled : Handled) : Prop where
  inside : handled.inside
  sound : ∀ pack ∈ handled.sent, pack.Sound

/-- A PADI: the headers that its loop comes to are inside of the frame, and where it is answered
the answer fits. -/
def PadiSound (config : Config) (tags : TagList) (size : Nat) : Prop :=
  (∀ n ∈ tags.visited 0, tags.base + n + 4 ≤ size) ∧
    ((∀ n ∈ tags.visited 0, tags.Fits n) → (∃ n ∈ tags.visited 0, OffersName config tags n) →
      20 + answerSize config tags 20
        [offered config tags, taken tags tagHostUniq, taken tags tagRelaySessionId] ≤ etherMaxLen)

/-- A PADR: the headers that its loop comes to are inside of the frame, the tags that are compared
or copied are whole, and the answer fits. -/
def PadrSound (config : Config) (memory : Memory) (size : Nat) : Prop :=
  let tags := tagsOf memory
  let hostUniq := taken tags tagHostUniq
  let relaySid := taken tags tagRelaySessionId
  (∀ n ∈ tags.visited 0, tags.base + n + 4 ≤ size ∧
      (ComparesName config tags n → Whole tags size n)) ∧
    ((∃ n ∈ tags.visited 0, GrantsName config tags n) →
      ∀ cookie ∈ taken tags tagAcCookie, tags.length cookie = 16 → Whole tags size cookie ∧
        (pppoeGenCookie config (hDest memory) (hSource memory) =
            readBytes memory (tags.base + cookie + 4) 16 →
          AnswerSound config tags size 0 [taken tags tagServiceName, hostUniq, relaySid])) ∧
    ((∀ n ∈ tags.visited 0, ¬ GrantsName config tags n) →
      AnswerSound config tags size 4 [hostUniq, relaySid])

/-- A frame that is handled inside of its bounds: it is not for this server to answer, or its tags
are sound. -/
def DiscoverySound (config : Config) (memory : Memory) (size : Nat) : Prop :=
  config.clusterIamMaster → Accepts config memory size → hdrSid memory = 0 →
    (hdrCode memory = codePadi → PadiSound config (tagsOf memory) size) ∧
    (hdrCode memory = codePadr → hDest memory ≠ bcAddr → PadrSound config memory size)

variable {server : Concentrator} {memory : Memory}

theorem discarded_bounded : (discarded server).Bounded := ⟨rfl, nofun⟩

theorem answered_bounded {inside : Bool} {pack : Pack} :
    Handled.Bounded { discarded server with sent := [pack], inside := inside } ↔
      inside ∧ pack.Sound :=
  ⟨fun bounded => ⟨bounded.inside, bounded.sound pack (by simp)⟩,
    fun both => ⟨both.1, by simpa using both.2⟩⟩

theorem unanswered_bounded {inside : Bool} :
    Handled.Bounded { discarded server with inside := inside } ↔ inside :=
  ⟨fun bounded => bounded.inside, fun inside => ⟨inside, nofun⟩⟩

theorem latest_whole {keep : Nat → Bool} (declared : tags.base + tags.size ≤ size)
    (fits : ∀ n ∈ tags.visited 0, tags.Fits n) :
    ∀ n ∈ TagList.latest keep (tags.visited 0), Whole tags size n :=
  fun n taken => whole_of_fits declared (fits n (TagList.latest_mem taken).1)

theorem pppoeRecvPadi_bounded (declared : 20 + ntohs memory 18 ≤ size) :
    (pppoeRecvPadi server memory size).Bounded ↔
      (hdrSid memory = 0 → PadiSound server.config (tagsOf memory) size) := by
  rw [pppoeRecvPadi]
  by_cases sid : hdrSid memory = 0
  · simp only [sid, ne_eq, not_true_eq_false, if_false, forall_const]
    have inside := @padi_inside server.config (tagsOf memory) size declared
    have finished := @TagList.scan_iff (tagsOf memory) 0 Found (lookTag (tagsOf memory) size)
      (padiTag server.config (tagsOf memory) size) .initial
    by_cases fits : ∀ n ∈ (tagsOf memory).visited 0, (tagsOf memory).Fits n
    · have found := @padi_found server.config (tagsOf memory) size fits
      simp only at found
      by_cases offers : ∃ n ∈ (tagsOf memory).visited 0, OffersName server.config (tagsOf memory) n
      · rw [if_neg (by rw [finished, found.2.2.2]; exact fun no => no.elim (· fits) (· offers)),
          answered_bounded, inside, found.1, found.2.1, found.2.2.1, pppoeSendPado_sound, PadiSound,
          AnswerSound]
        have whole : AllWhole (tagsOf memory) size [offered server.config (tagsOf memory),
            taken (tagsOf memory) tagHostUniq, taken (tagsOf memory) tagRelaySessionId] := by
          simp only [AllWhole, List.forall_mem_cons, List.not_mem_nil, IsEmpty.forall_iff,
            implies_true, and_true]
          exact ⟨latest_whole declared fits, latest_whole declared fits, latest_whole declared fits⟩
        exact ⟨fun both => ⟨both.1, fun _ _ => both.2.2⟩,
          fun both => ⟨both.1, whole, both.2 fits offers⟩⟩
      · rw [if_pos (by rw [found.2.2.2]; exact .inr offers), unanswered_bounded, inside, PadiSound]
        simp only [offers, IsEmpty.forall_iff, implies_true, and_true]
    · rw [if_pos (by rw [finished]; exact .inl fits), unanswered_bounded, inside, PadiSound]
      simp only [fits, IsEmpty.forall_iff, and_true]
  · simp only [sid, ne_eq, not_false_eq_true, if_true, IsEmpty.forall_iff, iff_true]
    exact discarded_bounded

theorem pppoeRecvPadr_bounded :
    (pppoeRecvPadr server memory size).Bounded ↔
      (hdrSid memory = 0 → hDest memory ≠ bcAddr → PadrSound server.config memory size) := by
  rw [pppoeRecvPadr]
  by_cases broadcast : hDest memory = bcAddr
  · simp only [broadcast, if_true, ne_eq, not_true_eq_false, IsEmpty.forall_iff, implies_true,
      iff_true]
    exact discarded_bounded
  · by_cases sid : hdrSid memory = 0
    · simp only [sid, broadcast, ne_eq, not_true_eq_false, not_false_eq_true, if_false,
        forall_const]
      obtain ⟨host, relay, cookie, service, granted, inside⟩ :=
        @padr_found server.config (tagsOf memory) size
      by_cases grants : ∃ n ∈ (tagsOf memory).visited 0, GrantsName server.config (tagsOf memory) n
      · obtain ⟨name, named⟩ := taken_of_grants grants
        have sound : PadrSound server.config memory size ↔ _ ∧ ∀ cookie ∈ _, _ :=
          and_congr_right fun _ => ⟨fun both => both.1 grants, fun granted =>
            ⟨fun _ => granted, fun none => absurd grants (by simpa using none)⟩⟩
        rw [if_neg (by rw [granted]; exact not_not.mpr grants), sound, cookie]
        cases taken (tagsOf memory) tagAcCookie with
        | none =>
            simp only [Option.mem_def, reduceCtorEq, IsEmpty.forall_iff, implies_true, and_true]
            rw [unanswered_bounded, inside]
        | some place =>
            simp only [Option.mem_def, Option.some.injEq, forall_eq']
            by_cases sixteen : (tagsOf memory).length place = 16
            · rw [if_neg (not_not.mpr sixteen)]
              by_cases right : pppoeGenCookie server.config (hDest memory) (hSource memory) =
                  readBytes memory ((tagsOf memory).base + place + 4) 16
              · rw [if_neg (not_not.mpr right), answered_bounded, note_inside, inside, host, relay,
                  service, named, pppoeSendPads_sound]
                simp only [sixteen, right, forall_const, and_assoc]
              · rw [if_pos right, unanswered_bounded, note_inside, inside]
                simp only [sixteen, right, IsEmpty.forall_iff, and_true, forall_const]
            · rw [if_pos sixteen, unanswered_bounded, inside]
              simp only [sixteen, IsEmpty.forall_iff, and_true]
      · have sound : PadrSound server.config memory size ↔ _ ∧ AnswerSound _ _ _ _ _ :=
          and_congr_right fun _ => ⟨fun both => both.2 (by simpa using grants), fun answer =>
            ⟨fun some => absurd some grants, fun _ => answer⟩⟩
        rw [if_pos (by rw [granted]; exact grants), answered_bounded, inside, host, relay,
          pppoeSendErr_sound, sound]
    · simp only [sid, broadcast, ne_eq, not_false_eq_true, if_true, if_false, IsEmpty.forall_iff,
        iff_true]
      exact discarded_bounded

theorem processPppoeDisc_padi (master : server.config.clusterIamMaster)
    (accepted : Accepts server.config memory size) (padi : hdrCode memory = codePadi) :
    processPppoeDisc server memory size = pppoeRecvPadi server memory size := by
  rw [processPppoeDisc, if_neg (not_not.mpr master), if_neg (not_not.mpr accepted), if_pos padi]

end

/-- **Discovery** stays inside of the frame received and of the buffers of its answers exactly if
the frame is not for this server to answer, or the headers that the loop over its tags comes to
are inside of the frame, the tags that are compared or copied are whole, and the answer to them
fits. -/
theorem discovery_bounded_iff (server : Concentrator) (memory : Memory) (size : Nat) :
    (processPppoeDisc server memory size).Bounded ↔ DiscoverySound server.config memory size := by
  rw [DiscoverySound]
  by_cases master : server.config.clusterIamMaster
  · by_cases accepted : Accepts server.config memory size
    · have other : codePadr ≠ codePadi := by decide
      by_cases padi : hdrCode memory = codePadi
      · rw [processPppoeDisc_padi master accepted padi, pppoeRecvPadi_bounded accepted.2.2.2.2.1]
        simp only [master, accepted, padi, forall_const, other.symm, IsEmpty.forall_iff, and_true]
      · rw [processPppoeDisc]
        simp only [master, accepted, not_true_eq_false, if_false, forall_const]
        by_cases padr : hdrCode memory = codePadr
        · rw [if_neg padi, if_pos padr, pppoeRecvPadr_bounded]
          simp only [padr, forall_const, other, IsEmpty.forall_iff, true_and]
        · have neither : (if hdrCode memory = codePadt then pppoeRecvPadt server memory
              else discarded server).Bounded := by
            rw [pppoeRecvPadt]
            split_ifs <;> exact ⟨rfl, (@discarded_bounded server).2⟩
          simp only [padi, padr, if_false, neither, IsEmpty.forall_iff, and_self, implies_true]
    · rw [processPppoeDisc]
      simp only [master, accepted, not_true_eq_false, not_false_eq_true, if_true, if_false,
        IsEmpty.forall_iff, implies_true, iff_true]
      exact discarded_bounded
  · rw [processPppoeDisc]
    simp only [master, Bool.false_eq_true, not_false_eq_true, if_true, IsEmpty.forall_iff,
      iff_true]
    exact ⟨rfl, (@discarded_bounded server).2⟩

/-- A frame of a client to everyone, with the first bytes of its tags, and zeros behind them. -/
def requestFrame (code : UInt8) (length : Nat) (tags : List UInt8) : Memory :=
  writeBytes (fun _ => 0) 0
    (List.replicate 6 0xFF ++ List.replicate 6 0x22 ++ [0x88, 0x63, 0x11, code, 0, 0] ++
      bytes16 length ++ tags)

/-- A PADI for any service with a Host-Uniq of 1480 bytes. -/
def longPadi : Memory :=
  requestFrame codePadi 1488 ([0x01, 0x01, 0, 0] ++ [0x01, 0x03] ++ bytes16 1480)

/-- A PADI with one byte of tags. -/
def cutPadi : Memory := requestFrame codePadi 1 [1]

theorem longPadi_visited : (tagsOf longPadi).visited 0 = [0, 4] := by
  have size : (tagsOf longPadi).size = 1488 := by decide
  have first : (tagsOf longPadi).length 0 = 0 := by decide
  have second : (tagsOf longPadi).length 4 = 1480 := by decide
  rw [TagList.visited_next (by omega), first, TagList.visited_next (by omega), second,
    TagList.visited_end (by omega)]

theorem longPadi_unsound : ¬ PadiSound plainConfig (tagsOf longPadi) 1508 := by
  intro sound
  have answer := sound.2
  simp only [longPadi_visited, offered, taken] at answer
  exact absurd (answer (by decide) (by decide)) (by decide)

/-- The answer to a PADI of 1508 bytes is longer than its buffer, and the header of a tag is read
behind a PADI of 21 bytes. -/
theorem discovery_unbounded :
    ¬ (processPppoeDisc booted longPadi 1508).Bounded ∧
      ¬ (processPppoeDisc booted cutPadi 21).Bounded := by
  constructor
  · rw [processPppoeDisc_padi rfl (by decide) (by decide), pppoeRecvPadi_bounded (by decide)]
    exact fun sound => longPadi_unsound (sound (by decide))
  · rw [processPppoeDisc_padi rfl (by decide) (by decide), pppoeRecvPadi_bounded (by decide)]
    intro sound
    have header := (sound (by decide)).1 0 (by rw [TagList.visited_next (by decide)]; simp)
    exact absurd header (by decide)

end L2tpns.Pppoe
