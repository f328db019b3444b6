import L2tpns.Radius.Reply

/-! # Answers and requests inside their bounds

Of the lengths in a packet from a RADIUS server or a client, that of the packet is compared
with what was received but not with the length of a header, and those of attributes are
assumed to fit what is in them. Handling a packet stays inside of its bounds exactly if they do
(`L2tpns.Radius.packets_inside_iff`).
-/

namespace L2tpns.Radius

open Foundation
open Avp (Memory readBytes writeBytes ntohs ntohl)
open Server (State maxRoute6 maxSession maxUser)

/-- The value of an attribute of a request, `n` bytes at `packet`, is there as far as it is
used. -/
def ValueSound (memory : Memory) (received : Nat) (type : UInt8) (packet n : Nat) : Prop :=
  let within (count : Nat) : Prop := count ≤ n ∧ packet + count ≤ received
  match type.toNat with
  | 1 => within (min n (maxUser - 1))
  | 4 | 5 | 6 | 8 => within 4
  | 11 => within n
  | 26 =>
      n < 6 ∨ if ntohl memory packet ≠ 9 then within 4
        else if memory (packet + 4) ≠ 1 then within 5
        else if (memory (packet + 5)).toNat < 2 then within 6
        -- the pair with its length is inside of the attribute
        else within (4 + (memory (packet + 5)).toNat)
  | _ => True

/-- The attribute of a request that begins at `p` is there as far as it is used. -/
def DaeAttributeSound (memory : Memory) (received p : Nat) : Prop :=
  p + 2 ≤ received ∧ (2 ≤ (memory (p + 1)).toNat →
    ValueSound memory received (memory p) (p + 2) ((memory (p + 1)).toNat - 2))

/-- Where the walk over the attributes of a request comes by. -/
def daeVisits (memory : Memory) (length packet : Nat) : List Nat :=
  if length = 0 then []
  else
    packet :: if (memory (packet + 1)).toNat < 2 then []
      else
        daeVisits memory (length - (memory (packet + 1)).toNat)
          (packet + (memory (packet + 1)).toNat)
termination_by length

/-- The request of `size` bytes has only attributes that do not refuse it, and the last
NAS-Port is the number behind those of sessions. -/
def NamesNoSession (server : DaeServer) (st : State) (items : List Tlv) : Prop :=
  (∀ item ∈ items, ¬ SetsError server st item) ∧ ¬ authorizeOnly items ∧
    portOf items = maxSession

/-- A packet that is handled as a request stays inside of its bounds: it is dropped or passed
on by its header, or it has a whole header, and its authenticator is wrong or its attributes
are sound and name a session. -/
def RequestSound (server : DaeServer) (st : State) (memory : Memory) (len : Nat) : Prop :=
  let size := ntohs memory 2
  let items := daeItems memory (size - headerSize) headerSize
  (len < headerSize ∨ len < size) ∨
    (memory 0 ≠ disconnectRequest ∧ memory 0 ≠ coARequest) ∨ ¬ server.iamMaster ∨
    (headerSize ≤ size ∧
      (List.ofFn (calcAuth server.toConfig memory size (List.replicate 16 0)) ≠
          readBytes memory 4 16 ∨
        (∀ p ∈ daeVisits memory (size - headerSize) headerSize,
          DaeAttributeSound memory len p) ∧ ¬ NamesNoSession server st items))

section

variable {server : DaeServer} {st : State} {memory : Memory} {received len packet n : Nat}
  {unpacked : Unpacked}

theorem Unpacked.note_inside {within : Prop} [Decidable within] :
    (unpacked.note within).inside ↔ unpacked.inside ∧ within := by
  simp [Unpacked.note]

theorem unpackAttribute_inside (type : UInt8) :
    (unpackAttribute server st memory received type packet n unpacked).inside ↔
      unpacked.inside ∧ ValueSound memory received type packet n := by
  unfold unpackAttribute ValueSound
  split <;> rename_i here
  · have name : (if n < maxUser then n else maxUser - 1) = min n (maxUser - 1) := by
      rw [maxUser]
      split <;> omega
    simp [here, Unpacked.note_inside, name]
  · simp [here, Unpacked.note_inside]
  · simp [here, Unpacked.note_inside]
  · simp [here, Unpacked.note_inside]
  · simp [here, Unpacked.note_inside]
  · cases filterIdOf server st memory packet n with
    | none => simp [here, Unpacked.note_inside]
    | some named =>
        obtain ⟨i, side⟩ := named
        cases side <;> simp [here, Unpacked.note_inside]
  · by_cases short : n < 6
    · simp [here, short]
    · by_cases vendor : ntohl memory packet = 9
      · by_cases pair : memory (packet + 4) = 1
        · by_cases empty : (memory (packet + 5)).toNat < 2
          · simp [here, short, vendor, pair, empty, Unpacked.note_inside]
          · have size : 6 + ((memory (packet + 5)).toNat - 2) =
                4 + (memory (packet + 5)).toNat := by omega
            simp [here, short, vendor, pair, empty, Unpacked.note_inside, size]
        · simp [here, short, vendor, pair, Unpacked.note_inside]
      · simp [here, short, vendor, Unpacked.note_inside]
  · split <;> simp_all

theorem unpack_inside {length : Nat} :
    (unpack server st memory received length packet unpacked).inside ↔
      unpacked.inside ∧ ∀ p ∈ daeVisits memory length packet,
        DaeAttributeSound memory received p := by
  induction length, packet, unpacked using unpack.induct server st memory received with
  | case1 packet unpacked =>
      rw [unpack, if_pos rfl, daeVisits, if_pos rfl]
      simp
  | case2 length packet unpacked some attributeLength short =>
      have stops : (memory (packet + 1)).toNat < 2 := short
      rw [unpack, if_neg some, daeVisits, if_neg some, if_pos stops]
      simp only [stops, ↓reduceIte, Unpacked.note_inside, List.mem_singleton, forall_eq,
        DaeAttributeSound]
      have no : ¬ 2 ≤ (memory (packet + 1)).toNat := by omega
      simp [no]
  | case3 length packet unpacked some attributeLength noted long ih =>
      have goes : ¬ (memory (packet + 1)).toNat < 2 := long
      rw [unpack, if_neg some, daeVisits, if_neg some, if_neg goes]
      simp only [goes, ↓reduceIte]
      rw [ih, unpackAttribute_inside, Unpacked.note_inside, List.forall_mem_cons,
        DaeAttributeSound]
      have yes : 2 ≤ (memory (packet + 1)).toNat := by omega
      simp only [yes, forall_const, and_assoc]
      rfl

theorem daeItems_mem {length : Nat} {item : Tlv} (member : item ∈ daeItems memory length packet) :
    ∃ p ∈ daeVisits memory length packet, 2 ≤ (memory (p + 1)).toNat ∧ item = itemAt memory p := by
  induction length, packet using daeItems.induct memory with
  | case1 packet =>
      rw [daeItems, if_pos rfl] at member
      exact absurd member List.not_mem_nil
  | case2 length packet some short =>
      rw [daeItems, if_neg some, if_pos short] at member
      exact absurd member List.not_mem_nil
  | case3 length packet some long ih =>
      rw [daeItems, if_neg some, if_neg long] at member
      rw [daeVisits, if_neg some, if_neg long]
      rcases List.mem_cons.mp member with rfl | behind
      · exact ⟨packet, List.mem_cons_self, Nat.le_of_not_lt long, rfl⟩
      · obtain ⟨p, visit, found⟩ := ih behind
        exact ⟨p, List.mem_cons_of_mem packet visit, found⟩

theorem DaeAttributeSound.roomy {p : Nat} (sound : DaeAttributeSound memory received p)
    (long : 2 ≤ (memory (p + 1)).toNat) : Roomy (itemAt memory p) := by
  intro number
  have value := sound.2 long
  have size : (itemAt memory p).value.length = (memory (p + 1)).toNat - 2 :=
    Avp.readBytes_length ..
  rw [size]
  unfold ValueSound at value
  simp only [itemAt, List.mem_cons, List.not_mem_nil, or_false] at number
  rcases number with type | type | type | type <;> simp only [type] at value <;> exact value.1

theorem unpack_holds {length : Nat}
    (sound : ∀ p ∈ daeVisits memory length packet, DaeAttributeSound memory received p) :
    Holds server st (daeItems memory length packet)
      (unpack server st memory received length packet .initial) := by
  have roomy : ∀ item ∈ daeItems memory length packet, Roomy item := by
    intro item member
    obtain ⟨p, visit, long, rfl⟩ := daeItems_mem member
    exact (sound p visit).roomy long
  have takes := @unpack_takes server st memory received packet .initial length roomy
  exact ⟨takes.username, takes.port, takes.ip, takes.authOnly, takes.error.trans (by
    simp [Unpacked.initial])⟩

theorem selectSession_inside :
    (selectSession st unpacked).inside = (selectPort st unpacked).inside := by
  have ip (selected : Selected) : (selectIp st unpacked selected).inside = selected.inside := by
    simp only [selectIp]
    split_ifs <;> rfl
  have user (selected : Selected) : (selectUser st unpacked selected).inside = selected.inside := by
    simp only [selectUser]
    split_ifs <;> rfl
  rw [selectSession, user, ip]

theorem selectPort_inside : (selectPort st unpacked).inside ↔
    ¬ (unpacked.refusal = 0 ∧ unpacked.port ≠ 0 ∧ maxSession ≤ unpacked.port % 2 ^ 16) := by
  rw [selectPort]
  split
  · rename_i given
    simp [given.1, given.2]
  · rename_i free
    simp only [true_iff]
    exact fun all => free ⟨all.1, all.2.1⟩

theorem selected_inside {items : List Tlv} (holds : Holds server st items unpacked) :
    (selectSession st unpacked).inside ↔ ¬ NamesNoSession server st items := by
  rw [selectSession_inside, selectPort_inside, not_iff_not, Unpacked.refusal_eq_zero,
    holds.error, holds.authOnly, holds.port, NamesNoSession]
  constructor
  · rintro ⟨⟨sound, wanted, -⟩, -, large⟩
    have range := portOf_le sound
    refine ⟨sound, wanted, ?_⟩
    rw [maxSession] at range large ⊢
    omega
  · rintro ⟨sound, wanted, none⟩
    rw [none, maxSession]
    exact ⟨⟨sound, wanted, fun all => absurd all.1 (by omega)⟩, by omega, by omega⟩

theorem processdae_inside :
    (processdae server st memory len).inside ↔ RequestSound server st memory len := by
  rw [RequestSound, processdae]
  by_cases duff : len < headerSize ∨ len < ntohs memory 2
  · simp [duff]
  by_cases unknown : memory 0 ≠ disconnectRequest ∧ memory 0 ≠ coARequest
  · simp [duff, unknown]
  by_cases master : server.iamMaster
  swap
  · simp [duff, unknown, master]
  rw [if_neg duff, if_neg unknown, if_neg (by simp [master])]
  simp only [duff, unknown, master, not_true_eq_false, false_or]
  by_cases wrong : List.ofFn (calcAuth server.toConfig memory (ntohs memory 2)
      (List.replicate 16 0)) ≠ readBytes memory 4 16
  · rw [if_pos wrong]
    simp only [wrong, true_or, and_true, decide_eq_true_eq, ne_eq, not_false_eq_true]
  · rw [if_neg wrong, apply_ite DaeHandled.inside, ite_self, Bool.and_eq_true, Bool.and_eq_true,
      decide_eq_true_eq, unpack_inside]
    simp only [wrong, false_or, and_assoc]
    refine and_congr_right fun _ => ?_
    constructor
    · rintro ⟨-, sound, indexed⟩
      exact ⟨sound, (selected_inside (unpack_holds sound)).mp indexed⟩
    · rintro ⟨sound, named⟩
      exact ⟨rfl, sound, (selected_inside (unpack_holds sound)).mpr named⟩

end

/-- The length of a tunnel password as it is deciphered. -/
def hiddenLength (server : ReplyServer) (memory : Memory) (p : Nat) : Nat :=
  (memory (p + 5) ^^^ server.md5 (server.radiussecret ++ server.auth ++
    [memory (p + 3), memory (p + 4)]) 0).toNat

/-- An attribute of an answer that is not vendor-specific, `n` bytes at `p`: what is copied fits
and what is searched for is in it. -/
def PlainSound (server : ReplyServer) (reply : Reply) (p n : Nat) : Prop :=
  let text := readBytes reply.memory (p + 2) (n - 2)
  let prefixlen := (reply.memory (p + 3)).toNat
  match (reply.memory p).toNat with
  | 22 => ∃ c ∈ text, c ≠ 46 ∧ ¬ isDigit c
  | 11 => 2 ≤ n
  | 99 => 47 ∈ text
  | 123 => 4 < n ∧ 0 < prefixlen ∧ prefixlen ≤ 128 → reply.route6.length = maxRoute6 ∨ n ≤ 20
  | 69 => n ≤ 245 ∨ n - 5 ≤ hiddenLength server reply.memory p
  | _ => True

/-- A vendor-specific attribute: what is in it fits. -/
def VendorSound (memory : Memory) (p n : Nat) : Prop :=
  let vendor := ntohl memory (p + 2)
  let attrib := memory (p + 6)
  let inner := (memory (p + 7)).toNat
  8 ≤ n ∧
    if vendor = 9 ∧ attrib = 1 then inner < 2 ∨ 6 + inner ≤ n
    else if vendor = 529 ∧ 135 ≤ attrib ∧ attrib ≤ 136 then inner < 6 ∨ 12 ≤ n
    else if vendor = 1337 ∧ attrib = 1 then True
    else if vendor = 1337 ∧ attrib = 2 then
      2 ≤ inner ∧ 8 + strncpyReads memory (p + 8) (min (inner - 2) maxGarden) ≤ n
    else if vendor = 1337 ∧ (attrib = 3 ∨ attrib = 4) then 10 ≤ n
    else True

/-- The attribute of an answer that begins at `p` can be taken inside of its bounds. -/
def AttributeSound (server : ReplyServer) (reply : Reply) (p : Nat) : Prop :=
  let n := (reply.memory (p + 1)).toNat
  if reply.memory p = 26 ∧ 7 ≤ n then VendorSound reply.memory p n
  else PlainSound server reply p n

section

variable {server : ReplyServer} {reply : Reply} {p n : Nat}

theorem Reply.note_inside {within : Prop} [Decidable within] :
    (reply.note within).inside ↔ reply.inside ∧ within := by
  simp [Reply.note]

@[simp]
theorem Reply.call_inside (call : Call) : (reply.call call).inside = reply.inside := rfl

@[simp]
theorem Reply.storeRoute_inside (route : Server.Route) :
    (reply.storeRoute route).inside = reply.inside := by
  rw [Reply.storeRoute]
  split <;> rfl

@[simp]
theorem Reply.storeRoute6_inside (route : Prefix6) :
    (reply.storeRoute6 route).inside = reply.inside := by
  rw [Reply.storeRoute6]
  split <;> rfl

@[simp]
theorem filterId_inside (text : List UInt8) :
    (filterId server reply text).inside = reply.inside := by
  rw [filterId]
  split
  · rfl
  · simp only
    split_ifs
    · split <;> rfl
    · split <;> rfl
    · rfl

theorem decodeFrom_none {config : Config} {len n : Nat} {ctx : List UInt8} {buffer : Memory}
    (block : n % 16 = 0) (within : n ≤ 240) :
    decodeFrom config len n ctx buffer = none ↔ 240 < len := by
  induction n, ctx, buffer using decodeFrom.induct config len with
  | case1 n ctx buffer more outside =>
      rw [decodeFrom, if_pos more, if_pos outside]
      rw [strtempSize] at outside
      simp only [true_iff]
      omega
  | case2 n ctx buffer more inside ih =>
      rw [strtempSize] at inside
      simp only [dite_eq_ite] at ih
      rw [decodeFrom, if_pos more, if_neg (by rwa [strtempSize]), ih (by omega) (by omega)]
  | case3 n ctx buffer done =>
      rw [decodeFrom, if_neg done]
      simp only [reduceCtorEq, false_iff]
      omega

theorem tunnelPassword_outside {memory : Memory} :
    processTunnelPassword server.toConfig server.auth (readBytes memory p n) = some .outside ↔
      ¬ (n ≤ 245 ∨ n - 5 ≤ hiddenLength server memory p) := by
  rw [processTunnelPassword, Avp.readBytes_length]
  by_cases short : n < 5
  · simp only [short, ↓reduceIte, reduceCtorEq, false_iff]
    omega
  rw [if_neg short, radTunnelPwdecode]
  by_cases empty : n - 3 ≤ 3
  · rw [if_neg (by omega), if_pos empty]
    simp only [Option.some.injEq, reduceCtorEq, false_iff]
    omega
  have byte (k : Nat) (inside : k + 3 < n) :
      writeBytes (fun _ => 0) 0 ((readBytes memory p n).drop 3) k = memory (p + (k + 3)) := by
    rw [writeBytes, if_pos (Nat.zero_le k), Nat.sub_zero, List.getElem?_drop]
    simp [readBytes, Nat.add_comm 3 k, inside]
  have hidden : (writeBytes (fun _ => 0) 0 ((readBytes memory p n).drop 3) 2 ^^^
      server.md5 (server.radiussecret ++ server.auth ++
        readBytes (writeBytes (fun _ => 0) 0 ((readBytes memory p n).drop 3)) 0 2) 0).toNat =
      hiddenLength server memory p := by
    have salt : readBytes (writeBytes (fun _ => 0) 0 ((readBytes memory p n).drop 3)) 0 2 =
        [memory (p + 3), memory (p + 4)] := by
      rw [← byte 0 (by omega), ← byte 1 (by omega)]
      rfl
    rw [salt, byte 2 (by omega)]
    rfl
  rw [if_neg (by omega), if_neg empty]
  simp only [hidden, show n - 3 - 2 = n - 5 by omega]
  by_cases long : n - 5 ≤ hiddenLength server memory p
  · simp [long]
  · simp only [long, ↓reduceIte, or_false]
    cases decoded : decodeFrom server.toConfig (n - 5) 0 _ _ with
    | none =>
        have much := (decodeFrom_none (by simp) (by simp)).mp decoded
        simp only [true_iff]
        omega
    | some buffer =>
        have little : ¬ 240 < n - 5 := fun much => by
          cases decoded.symm.trans ((decodeFrom_none (by simp) (by simp)).mpr much)
        simp only [Option.some.injEq, reduceCtorEq, false_iff]
        omega

theorem scanQuad_rest (text : List UInt8) (ip : Server.InAddr) (u : UInt8) :
    (scanQuad text ip u).2.2 ≠ [] ↔ ∃ c ∈ text, c ≠ 46 ∧ ¬ isDigit c := by
  induction text generalizing ip u with
  | nil => simp [scanQuad]
  | cons c rest ih =>
      rw [scanQuad]
      split_ifs with dot digit
      · simp [ih, dot]
      · simp [ih, digit]
      · simp [dot, digit]

theorem framedIpv6Route_inside (text : List UInt8) :
    (∃ next, framedIpv6Route server reply p text = some next ∧ next.inside) ↔
      reply.inside ∧ 47 ∈ text := by
  rw [framedIpv6Route]
  cases found : text.findIdx? (· = 47) with
  | none =>
      have absent : 47 ∉ text := fun member => by
        simpa using List.findIdx?_eq_none_iff.mp found _ member
      simp [absent]
  | some slash =>
      have present : 47 ∈ text := by
        obtain ⟨inside, same, -⟩ := List.findIdx?_eq_some_iff_getElem.mp found
        exact of_decide_eq_true same ▸ List.getElem_mem inside
      simp only [present, and_true]
      split <;> simp

theorem delegatedIpv6Prefix_inside :
    (∃ next, delegatedIpv6Prefix server reply p n = some next ∧ next.inside) ↔
      reply.inside ∧ (4 < n ∧ 0 < (reply.memory (p + 3)).toNat ∧
        (reply.memory (p + 3)).toNat ≤ 128 → reply.route6.length = maxRoute6 ∨ n ≤ 20) := by
  rw [delegatedIpv6Prefix]
  by_cases given : 4 < n ∧ 0 < (reply.memory (p + 3)).toNat ∧ (reply.memory (p + 3)).toNat ≤ 128
  · simp only [given, and_true, ↓reduceIte, forall_const]
    by_cases full : reply.route6.length = maxRoute6
    · simp [full]
    · by_cases long : 16 < n - 4
      · simp only [full, long, ↓reduceIte, reduceCtorEq, false_and, exists_false, false_or,
          false_iff, not_and]
        omega
      · simp only [full, long, ↓reduceIte, false_or]
        simp
        omega
  · simp [given]

theorem checked_inside {taken : Reply} {least : Nat}
    (enough : least ≤ n → (taken.inside ↔ reply.inside)) :
    (∃ next, (if n < least then some reply else some taken) = some next ∧ next.inside) ↔
      reply.inside := by
  by_cases short : n < least
  · simp [short]
  · simp [short, enough (Nat.le_of_not_lt short)]

/-- A plain attribute with its own length. -/
theorem plainAttribute_inside (size : (reply.memory (p + 1)).toNat = n) :
    (∃ next, plainAttribute server reply p n = some next ∧ next.inside) ↔
      reply.inside ∧ PlainSound server reply p n := by
  unfold plainAttribute PlainSound
  simp only [size]
  split <;> rename_i here <;> simp only [here, and_true]
  · exact checked_inside fun enough => by simp [Reply.note_inside, enough]
  · exact checked_inside fun enough => by simp [Reply.note_inside, enough]
  · exact checked_inside fun enough => by simp [Reply.note_inside, enough]
  · simp [Reply.note_inside, scanQuad_rest]
  · simp [Reply.note_inside]
  · by_cases short : n < 6
    · simp [short]
    · have enough : 6 ≤ n := by omega
      simp only [short, ↓reduceIte]
      split <;> simp [Reply.note_inside, enough]
  · exact checked_inside fun enough => by simp [Reply.note_inside, enough]
  · rw [framedIpv6Route_inside, Reply.note_inside, and_assoc]
    refine and_congr_right fun _ => and_iff_right_of_imp fun slash => ?_
    have some := List.length_pos_of_mem slash
    rw [Avp.readBytes_length] at some
    omega
  · exact delegatedIpv6Prefix_inside
  · by_cases whole : n = 18
    · simp [whole, Reply.note_inside]
    · simp [whole]
  · exact checked_inside fun _ => by simp [Reply.note_inside]
  · by_cases whole : n = 6
    · simp [whole, Reply.note_inside]
    · simp [whole]
  · exact checked_inside fun enough => by simp [Reply.note_inside, enough]
  · exact checked_inside fun _ => by simp [Reply.note_inside]
  · rw [← not_not (a := _ ∨ _), ← tunnelPassword_outside]
    split <;> rename_i decoded <;> simp only [decoded]
    · simp
    · simp
    · split <;> simp [Reply.note_inside]
  · exact checked_inside fun _ => by simp [Reply.note_inside]
  · simp

theorem nested_inside {size : Nat} (from135 : 135 ≤ reply.memory p)
    (to136 : reply.memory p ≤ 136) :
    (∃ next, plainAttribute server reply p size = some next ∧ next.inside) ↔
      reply.inside ∧ ((reply.memory (p + 1)).toNat < 6 ∨ 6 ≤ size) := by
  have type : (reply.memory p).toNat = 135 ∨ (reply.memory p).toNat = 136 := by
    rw [UInt8.le_iff_toNat_le] at from135 to136
    simp at from135 to136
    omega
  rcases type with type | type <;> rw [plainAttribute] <;> simp only [type]
  · by_cases short : (reply.memory (p + 1)).toNat < 6
    · simp [short]
    · simp [short, Reply.note_inside]
  · by_cases short : (reply.memory (p + 1)).toNat < 6
    · simp [short]
    · simp [short, Reply.note_inside]

theorem vendorSpecific_inside (long : 7 ≤ n) :
    (∃ next, vendorSpecific server reply p n = some next ∧ next.inside) ↔
      reply.inside ∧ VendorSound reply.memory p n := by
  rw [vendorSpecific, VendorSound]
  refine Iff.trans ?_ and_assoc
  rw [← @Reply.note_inside reply (8 ≤ n)]
  generalize kept : reply.note (8 ≤ n) = noted
  have memory : noted.memory = reply.memory := kept ▸ rfl
  by_cases cisco : ntohl reply.memory (p + 2) = 9 ∧ reply.memory (p + 6) = 1
  · simp only [cisco, true_and, ↓reduceIte]
    by_cases empty : (reply.memory (p + 7)).toNat < 2
    · simp [empty]
    · have size : 8 + ((reply.memory (p + 7)).toNat - 2) = 6 + (reply.memory (p + 7)).toNat := by
        omega
      rw [size]
      simp only [empty, ↓reduceIte, false_or]
      cases (splitAvpair reply.memory (p + 8) ((reply.memory (p + 7)).toNat - 2)).1 <;>
        simp [Reply.note_inside]
  by_cases dns : ntohl reply.memory (p + 2) = 529 ∧ 135 ≤ reply.memory (p + 6) ∧
      reply.memory (p + 6) ≤ 136
  · rw [if_neg cisco, if_neg cisco, if_pos dns, if_pos dns, nested_inside (by
      rw [memory]
      exact dns.2.1) (by
      rw [memory]
      exact dns.2.2), memory]
    have size : 6 ≤ n - 6 ↔ 12 ≤ n := by omega
    rw [size]
  rw [if_neg cisco, if_neg cisco, if_neg dns, if_neg dns]
  by_cases garden : ntohl reply.memory (p + 2) = 1337 ∧ reply.memory (p + 6) = 1
  · simp only [garden, ↓reduceIte, and_true]
    split <;> simp
  rw [if_neg garden, if_neg garden]
  by_cases name : ntohl reply.memory (p + 2) = 1337 ∧ reply.memory (p + 6) = 2
  · simp only [name, true_and, ↓reduceIte]
    by_cases empty : (reply.memory (p + 7)).toNat < 2
    · simp [empty]
    · simp [empty, Reply.note_inside]
      omega
  rw [if_neg name, if_neg name]
  by_cases pool : ntohl reply.memory (p + 2) = 1337 ∧ reply.memory (p + 6) = 3
  · simp [pool, Reply.note_inside]
  by_cases free : ntohl reply.memory (p + 2) = 1337 ∧ reply.memory (p + 6) = 4
  · simp [free, Reply.note_inside]
  have neither : ¬ (ntohl reply.memory (p + 2) = 1337 ∧
      (reply.memory (p + 6) = 3 ∨ reply.memory (p + 6) = 4)) := fun either =>
    either.2.elim (fun is => pool ⟨either.1, is⟩) fun is => free ⟨either.1, is⟩
  rw [if_neg pool, if_neg free, if_neg neither]
  simp

theorem processAttribute_inside (reply : Reply) (p : Nat) :
    (∃ next, processAttribute server reply p = some next ∧ next.inside) ↔
      reply.inside ∧ AttributeSound server reply p := by
  rw [processAttribute, AttributeSound]
  split
  · rename_i vendor
    exact vendorSpecific_inside vendor.2
  · exact plainAttribute_inside rfl

end

/-- A packet that is handled as an answer stays inside of its bounds: it is dropped by its
lengths or by the state of the slot, or it has a whole header, and it is not accepted or its
attributes are sound where they are taken. -/
def AnswerSound (server : Nat → ReplyServer) (st : State) (postAuth : Bool → Bool)
    (granted : Granted) (memory : Memory) (len socketIndex : Nat) : Prop :=
  let size := ntohs memory 2
  let r := socketIndex ||| (memory 1).toNat <<< radiusShift
  let slot := st.radius r
  (len < headerSize ∨ len < size) ∨ slot.session < maxSession ∧
    ((slot.session = 0 ∧ slot.state ≠ .stop) ∨ ¬ slot.state.isAwaiting ∨ headerSize ≤ size ∧
      (List.ofFn (calcAuth (server r).toConfig memory size (server r).auth) ≠
          readBytes memory 4 16 ∨
        ¬ slot.state.expects (radCode (memory 0)) ∨ ¬ slot.state.isAuth ∨
        ¬ postAuth (radCode (memory 0) = .accessAccept) ∨
        ∀ visit ∈ visited (server r) size headerSize (.start granted memory true),
          AttributeSound (server r) visit.1 visit.2))

theorem taken_inside {server : ReplyServer} {granted : Granted} {memory : Memory} {e p : Nat}
    {inside : Bool} :
    (match processAttributes server e p (.start granted memory inside) with
      | none => (⟨none, false⟩ : AnswerHandled)
      | some reply => ⟨some reply.toGranted, reply.inside⟩).inside ↔
      inside ∧ ∀ visit ∈ visited server e p (.start granted memory inside),
        AttributeSound server visit.1 visit.2 := by
  have whole := @processAttributes_iff server e p (.start granted memory inside)
    (fun reply => reply.inside) _ processAttribute_inside
  refine Iff.trans ?_ whole
  cases processAttributes server e p (.start granted memory inside) with
  | none | some reply => simp

theorem processradAnswer_inside {server : Nat → ReplyServer} {st : State}
    {postAuth : Bool → Bool} {granted : Granted} {memory : Memory} {len socketIndex : Nat} :
    (processradAnswer server st postAuth granted memory len socketIndex).inside ↔
      AnswerSound server st postAuth granted memory len socketIndex := by
  rw [processradAnswer, AnswerSound]
  by_cases duff : len < headerSize ∨ len < ntohs memory 2
  · simp [duff]
  simp only [duff, ↓reduceIte, false_or]
  generalize socketIndex ||| (memory 1).toNat <<< radiusShift = r
  generalize st.radius r = slot
  by_cases none : slot.session = 0 ∧ slot.state ≠ .stop
  · simp [none]
  by_cases awaiting : slot.state.isAwaiting
  swap
  · simp [none, awaiting]
  rw [if_neg none, if_neg (by simp [awaiting])]
  simp only [none, awaiting, not_true_eq_false, false_or]
  generalize List.ofFn (calcAuth (server r).toConfig memory (ntohs memory 2) (server r).auth) = hash
  by_cases wrong : hash ≠ readBytes memory 4 16
  · simp [wrong]
  rw [if_neg wrong]
  simp only [wrong, false_or]
  by_cases expected : slot.state.expects (radCode (memory 0))
  swap
  · simp [expected]
  by_cases login : slot.state.isAuth
  swap
  · simp [expected, login]
  by_cases allowed : postAuth (radCode (memory 0) = .accessAccept)
  swap
  · simp [expected, login, allowed]
  rw [if_neg (by simp [expected]), if_neg (by simp [login]), if_neg (by simp [allowed])]
  refine taken_inside.trans ?_
  simp only [expected, login, allowed, not_true_eq_false, false_or, Bool.and_eq_true,
    decide_eq_true_eq]
  rw [and_assoc]
  refine and_congr_right fun indexed => and_congr_right fun header => ?_
  simp only [indexed, header, decide_true, Bool.and_self]

/-- **Packets inside their bounds**: an answer of a RADIUS server and a request to change or end
a session are handled inside of them exactly if their lengths fit. -/
theorem packets_inside_iff (replyServer : Nat → ReplyServer) (postAuth : Bool → Bool)
    (granted : Granted) (server : DaeServer) (st : State) (memory : Memory)
    (len socketIndex : Nat) :
    ((processradAnswer replyServer st postAuth granted memory len socketIndex).inside ↔
      AnswerSound replyServer st postAuth granted memory len socketIndex) ∧
    ((processdae server st memory len).inside ↔ RequestSound server st memory len) :=
  ⟨processradAnswer_inside, processdae_inside⟩

/-- What an answer is handled with where no address can be read. -/
def bareReplyServer : ReplyServer where
  radiussecret := text "s"
  md5 _ _ := 0
  auth := []
  findFilter _ := none
  killTimedoutSessions := false
  inetPton _ := none
  uninitialised _ := List.replicate 16 0
  route6Before _ := List.replicate 16 0

/-- Twenty bytes with the code of a Disconnect request and a length of 0 are digested far behind
their end. -/
theorem packets_outside : ¬ ∀ replyServer postAuth granted server st memory len socketIndex,
    (processradAnswer replyServer st postAuth granted memory len socketIndex).inside ∧
      (processdae server st memory len).inside := by
  intro inside
  have sound := processdae_inside.mp (inside (fun _ => bareReplyServer) id .fresh
    (daeMaster []) Server.filterStart (stored [disconnectRequest]) 20 0).2
  have size : ntohs (stored [disconnectRequest]) 2 = 0 := rfl
  have code : stored [disconnectRequest] 0 = disconnectRequest := rfl
  simp [RequestSound, size, code, headerSize, daeMaster] at sound

end L2tpns.Radius
