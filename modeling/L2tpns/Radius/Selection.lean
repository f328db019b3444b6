import L2tpns.Radius.Dae

/-! # The session that a request names

The attributes of a well-formed request are in the variables of `processdae` as the last one
of each type has it. An attribute that names an error is not forgotten, but a side of a
filter may be cut off in a Filter-Id, a user in a User-Name may be cut to the room for it, and
of attributes that disagree only the last counts. A request whose attributes agree, or one that
its own attributes refuse, acts on the session that it names or on none
(`L2tpns.Radius.dae_exact_iff`).
-/

namespace L2tpns.Radius

open Foundation
open Avp (Memory ntohl ntohs readBytes readBytes_append readBytes_getElem? writeBytes)
open Server (State InAddr cString maxFilter maxSession maxUser sessionbyip)

/-- A value at the start of a memory. -/
def stored (value : List UInt8) : Memory := writeBytes (fun _ => 0) 0 value

def numberOf (value : List UInt8) : Nat := ntohl (stored value) 0

def addressOf (value : List UInt8) : InAddr := UInt32.ofNat (numberOf value)

def lastValue (type : Nat) : List Tlv → Option (List UInt8)
  | [] => none
  | item :: items =>
      (lastValue type items).or (if item.type.toNat = type then some item.value else none)

/-- The last NAS-Port. -/
def portOf (items : List Tlv) : Nat := (lastValue 5 items).elim 0 numberOf

/-- The last Framed-IP-Address. -/
def ipOf (items : List Tlv) : InAddr := (lastValue 8 items).elim 0 addressOf

/-- The last User-Name, cut to the room for a user and at the first NUL. -/
def userOf (items : List Tlv) : List UInt8 :=
  (lastValue 1 items).elim [] fun value => cString (value.take (maxUser - 1))

/-- The last Service-Type asks for an authorization only. -/
def authorizeOnly (items : List Tlv) : Bool :=
  (lastValue 6 items).elim false fun value => numberOf value = 8

/-- Its length is a byte, and an address or a number has four bytes. -/
def WellFormed (item : Tlv) : Prop :=
  item.Fits ∧ (item.type.toNat ∈ [4, 5, 6, 8] → item.value.length = 4)

instance (item : Tlv) : Decidable (WellFormed item) := inferInstanceAs (Decidable (_ ∧ _))

/-- There is room for a number where one is read. -/
def Roomy (item : Tlv) : Prop := item.type.toNat ∈ [4, 5, 6, 8] → 4 ≤ item.value.length

/-- The attribute that begins at a position. -/
def itemAt (memory : Memory) (packet : Nat) : Tlv :=
  ⟨memory packet, readBytes memory (packet + 2) ((memory (packet + 1)).toNat - 2)⟩

/-- The attributes that are unpacked. -/
def daeItems (memory : Memory) (length packet : Nat) : List Tlv :=
  if length = 0 then []
  else if (memory (packet + 1)).toNat < 2 then []
  else
    itemAt memory packet :: daeItems memory (length - (memory (packet + 1)).toNat)
      (packet + (memory (packet + 1)).toNat)
termination_by length

/-- A Disconnect or CoA request with these attributes that the master has received, and whose
authenticator is right. -/
structure Authentic (server : DaeServer) (memory : Memory) (len : Nat) (items : List Tlv) :
    Prop where
  master : server.iamMaster = true
  code : memory 0 = disconnectRequest ∨ memory 0 = coARequest
  size : ntohs memory 2 = headerSize + (Tlv.encodeAll items).length
  received : ntohs memory 2 ≤ len
  area : readBytes memory headerSize (Tlv.encodeAll items).length = Tlv.encodeAll items
  wellFormed : ∀ item ∈ items, WellFormed item
  vector : List.ofFn (calcAuth server.toConfig memory (ntohs memory 2) (List.replicate 16 0)) =
    readBytes memory 4 16

/-- Tables of sessions: the numbers are in range, and users are strings that fit. -/
structure Tables (st : State) : Prop where
  highest : st.highestSessionid < maxSession
  users : ∀ s, 0 ∉ (st.session s).user ∧ (st.session s).user.length < maxUser

def sideText : Server.FilterSide → List UInt8
  | .inbound => text ".in"
  | .outbound => text ".out"

/-- The name of a filter that is defined, and a side. -/
def NamesFilter (st : State) (value : List UInt8) : Prop :=
  ∃ f < maxFilter, ∃ side, st.filterName f ≠ [] ∧ value = st.filterName f ++ sideText side

/-- The attribute asks for something that cannot be: another server, a number that no session
has, an authorization only, or a filter that is not there. -/
def NamesError (server : DaeServer) (st : State) (item : Tlv) : Prop :=
  match item.type.toNat with
  | 4 => addressOf item.value ≠ server.bindAddress
  | 5 => numberOf item.value < 1 ∨ maxSession ≤ numberOf item.value
  | 6 => numberOf item.value = 8
  | 11 => ¬ NamesFilter st item.value
  | _ => False

/-- Session `s` is what the attribute identifies. -/
def Identifies (st : State) (s : Nat) (item : Tlv) : Prop :=
  match item.type.toNat with
  | 1 => (st.session s).user = item.value
  | 5 => s = numberOf item.value
  | 8 => sessionbyip st (addressOf item.value) = s
  | _ => True

/-- The session is in use and every attribute identifies it. -/
structure Identified (st : State) (items : List Tlv) (s : Nat) : Prop where
  positive : 0 < s
  within : s < maxSession
  opened : (st.session s).opened ≠ 0
  identifies : ∀ item ∈ items, Identifies st s item

def IsAck (response : List UInt8) : Prop :=
  response.head? = some disconnectACK ∨ response.head? = some coAACK

/-- A request is granted without an error, for the session that it identifies, and a request
that is not granted changes nothing. -/
structure ActsExactly (server : DaeServer) (st : State) (memory : Memory) (len : Nat)
    (items : List Tlv) : Prop where
  acked : ∀ response, (processdae server st memory len).response = some response →
    IsAck response → (∀ item ∈ items, ¬ NamesError server st item) ∧
      ∃ s, Identified st items s ∧ (processdae server st memory len).st =
        applyRequest server st memory (unpack server st memory len (ntohs memory 2 - headerSize)
          headerSize .initial) s
  naked : ∀ response, (processdae server st memory len).response = some response →
    ¬ IsAck response → (processdae server st memory len).st = st

def SetsError (server : DaeServer) (st : State) (item : Tlv) : Prop :=
  match item.type.toNat with
  | 4 => addressOf item.value ≠ server.bindAddress
  | 5 => numberOf item.value < 1 ∨ maxSession < numberOf item.value
  | 11 => filterIdOf server st (stored item.value) 0 item.value.length = none
  | _ => False

/-- The attributes refuse the request, whatever sessions there are. -/
def RefusesItself (server : DaeServer) (st : State) (items : List Tlv) : Prop :=
  (∃ item ∈ items, SetsError server st item) ∨ authorizeOnly items ∨
    (portOf items = 0 ∧ ipOf items = 0 ∧ userOf items = []) ∨
    (portOf items = maxSession ∧ ipOf items ≠ 0)

/-- The attribute is complete and says the same as the last one of its type. -/
def Agrees (st : State) (items : List Tlv) (item : Tlv) : Prop :=
  match item.type.toNat with
  | 1 => item.value = userOf items ∧ userOf items ≠ []
  | 5 => numberOf item.value = portOf items ∧ portOf items < maxSession
  | 6 => numberOf item.value ≠ 8
  | 8 => addressOf item.value = ipOf items ∧ ipOf items ≠ 0
  | 11 => NamesFilter st item.value
  | _ => True

variable {server : DaeServer} {st : State} {memory : Memory} {received len packet : Nat}
  {unpacked : Unpacked} {item : Tlv} {items : List Tlv}

variable {value : List UInt8} {type : Nat} {selected : Selected} {st' : State}

theorem stored_apply (read : readBytes memory packet value.length = value)
    {k : Nat} (inside : k < value.length) : stored value k = memory (packet + k) := by
  rw [stored, writeBytes, if_pos (Nat.zero_le k), Nat.sub_zero, List.getElem?_eq_getElem inside,
    Option.getD_some]
  exact (readBytes_getElem? read (List.getElem?_eq_getElem inside)).symm

theorem readBytes_stored : readBytes (stored value) 0 value.length = value := by
  have written := Avp.readBytes_writeBytes (fun _ => 0) 0 [] value []
  simpa [stored] using written

theorem ntohl_stored (read : readBytes memory packet value.length = value)
    (size : 4 ≤ value.length) : ntohl memory packet = numberOf value := by
  have same (k : Nat) (inside : k < 4) : stored value k = memory (packet + k) :=
    stored_apply read (by omega)
  simp [numberOf, ntohl, ntohs, same, Nat.add_assoc]

/-- The filter depends on the bytes of the value alone. -/
theorem filterIdOf_congr {other : Memory} {p n : Nat}
    (same : readBytes memory packet n = readBytes other p n) :
    filterIdOf server st memory packet n = filterIdOf server st other p n := by
  have part (b k : Nat) (inside : b + k ≤ n) :
      readBytes memory (packet + b) k = readBytes other (p + b) k := by
    apply List.ext_getElem
    · simp [Avp.readBytes_length]
    · intro j there _
      rw [Avp.readBytes_length] at there
      have byte : (readBytes memory packet n)[b + j]? = (readBytes other p n)[b + j]? := by
        rw [same]
      simpa [readBytes, show b + j < n by omega, Nat.add_assoc] using byte
  rw [filterIdOf, filterIdOf, same]
  cases found : (readBytes other p n).findIdx? (· = 46) with
  | none => rfl
  | some len =>
      have inside : len < n := by
        have := (List.findIdx?_eq_some_iff_getElem.mp found).1
        rwa [Avp.readBytes_length] at this
      have name := part 0 len (by omega)
      rw [Nat.add_zero, Nat.add_zero] at name
      simp only [name, memcmpEq, part len (n - len) (by omega)]
      rfl

/-- What one attribute does to the variables. -/
structure Takes (server : DaeServer) (st : State) (item : Tlv) (before after : Unpacked) :
    Prop where
  username : after.username =
    if item.type.toNat = 1 then cString (item.value.take (maxUser - 1)) else before.username
  port : after.port = if item.type.toNat = 5 then numberOf item.value else before.port
  ip : after.ip = if item.type.toNat = 8 then addressOf item.value else before.ip
  authOnly : after.authOnly =
    if item.type.toNat = 6 then decide (numberOf item.value = 8) else before.authOnly
  error : after.error = 0 ↔ before.error = 0 ∧ ¬ SetsError server st item

theorem readBytes_take
    (read : readBytes memory packet value.length = value) {k : Nat} (inside : k ≤ value.length) :
    readBytes memory packet k = value.take k := by
  conv_rhs => rw [← read]
  rw [readBytes, readBytes, ← List.map_take, List.take_range, Nat.min_eq_left inside]

theorem unpackAttribute_takes (roomy : Roomy item)
    (read : readBytes memory packet item.value.length = item.value) :
    Takes server st item unpacked
      (unpackAttribute server st memory received item.type packet item.value.length unpacked) := by
  have number (type : Nat) (here : item.type.toNat = type) (long : type ∈ [4, 5, 6, 8]) :
      ntohl memory packet = numberOf item.value :=
    ntohl_stored read (roomy (here ▸ long))
  unfold unpackAttribute
  split
  · rename_i type
    have name : readBytes memory packet
        (if item.value.length < maxUser then item.value.length else maxUser - 1) =
          item.value.take (maxUser - 1) := by
      split
      · rename_i short
        rw [read, List.take_of_length_le (by omega)]
      · rename_i long
        exact readBytes_take read (by omega)
    constructor <;> simp [type, SetsError, Unpacked.note, name]
  · rename_i type
    have value := number 4 type (by simp)
    constructor <;> simp [type, SetsError, Unpacked.note, value, addressOf]
    split <;> simp_all
  · rename_i type
    have value := number 5 type (by simp)
    constructor <;> simp only [type, SetsError, Unpacked.note, value] <;> simp
    split
    · simp
      omega
    · simp
      omega
  · rename_i type
    have value := number 6 type (by simp)
    constructor <;> simp [type, SetsError, Unpacked.note, value]
  · rename_i type
    have value := number 8 type (by simp)
    constructor <;> simp [type, SetsError, Unpacked.note, value, addressOf]
  · rename_i type
    have filter : filterIdOf server st memory packet item.value.length =
        filterIdOf server st (stored item.value) 0 item.value.length :=
      filterIdOf_congr (read.trans readBytes_stored.symm)
    cases found : filterIdOf server st (stored item.value) 0 item.value.length with
    | none => constructor <;> simp [type, SetsError, Unpacked.note, filter, found]
    | some named =>
        obtain ⟨i, side⟩ := named
        cases side <;> constructor <;> simp [type, SetsError, Unpacked.note, filter, found]
  · rename_i type
    constructor <;> simp only [type, SetsError] <;> split_ifs <;> simp_all [Unpacked.note]
  · constructor <;> simp_all [SetsError]

theorem lastValue_cons {β : Type} (absent : β) (read : List UInt8 → β) :
    (lastValue type (item :: items)).elim absent read =
      (lastValue type items).elim (if item.type.toNat = type then read item.value else absent)
        read := by
  rw [lastValue]
  cases lastValue type items with
  | none => split <;> rfl
  | some value => rfl

/-- What all attributes do to the variables. -/
structure TakesAll (server : DaeServer) (st : State) (items : List Tlv)
    (before after : Unpacked) : Prop where
  username : after.username =
    (lastValue 1 items).elim before.username fun value => cString (value.take (maxUser - 1))
  port : after.port = (lastValue 5 items).elim before.port numberOf
  ip : after.ip = (lastValue 8 items).elim before.ip addressOf
  authOnly : after.authOnly =
    (lastValue 6 items).elim before.authOnly fun value => decide (numberOf value = 8)
  error : after.error = 0 ↔ before.error = 0 ∧ ∀ item ∈ items, ¬ SetsError server st item

theorem Takes.followed {before between after : Unpacked}
    (takes : Takes server st item before between)
    (rest : TakesAll server st items between after) :
    TakesAll server st (item :: items) before after where
  username := by rw [lastValue_cons, rest.username, takes.username]
  port := by rw [lastValue_cons, rest.port, takes.port]
  ip := by rw [lastValue_cons, rest.ip, takes.ip]
  authOnly := by rw [lastValue_cons, rest.authOnly, takes.authOnly]
  error := by
    rw [rest.error, takes.error, and_assoc, List.forall_mem_cons]

theorem Unpacked.note_takes {before after : Unpacked} {within : Prop} [Decidable within]
    (takes : TakesAll server st items (before.note within) after) :
    TakesAll server st items before after :=
  ⟨takes.username, takes.port, takes.ip, takes.authOnly, takes.error⟩

theorem unpack_takes {length : Nat} (roomy : ∀ item ∈ daeItems memory length packet, Roomy item) :
    TakesAll server st (daeItems memory length packet) unpacked
      (unpack server st memory received length packet unpacked) := by
  induction length, packet, unpacked using unpack.induct server st memory received with
  | case1 packet unpacked =>
      rw [unpack, if_pos rfl, daeItems, if_pos rfl]
      exact ⟨rfl, rfl, rfl, rfl, by simp⟩
  | case2 length packet unpacked some attributeLength short =>
      rw [unpack, if_neg some, daeItems, if_neg some, if_pos short]
      simp only [show (memory (packet + 1)).toNat < 2 from short, ↓reduceIte]
      exact ⟨rfl, rfl, rfl, rfl, by simp [Unpacked.note]⟩
  | case3 length packet unpacked some attributeLength noted long ih =>
      have items : daeItems memory length packet = itemAt memory packet ::
          daeItems memory (length - attributeLength) (packet + attributeLength) := by
        rw [daeItems, if_neg some, if_neg long]
      rw [items] at roomy ⊢
      obtain ⟨first, others⟩ := List.forall_mem_cons.mp roomy
      have size : (itemAt memory packet).value.length = attributeLength - 2 :=
        Avp.readBytes_length ..
      have takes : Takes server st (itemAt memory packet) noted
          (unpackAttribute server st memory received (memory packet) (packet + 2)
            (attributeLength - 2) noted) := by
        rw [← size]
        exact unpackAttribute_takes first (by rw [size]; rfl)
      rw [unpack, if_neg some]
      simp only [show ¬ (memory (packet + 1)).toNat < 2 from long, ↓reduceIte]
      exact Unpacked.note_takes (takes.followed (ih others))

theorem daeItems_encodeAll (fits : ∀ item ∈ items, item.Fits)
    (area : readBytes memory packet (Tlv.encodeAll items).length = Tlv.encodeAll items) :
    daeItems memory (Tlv.encodeAll items).length packet = items := by
  induction items generalizing packet with
  | nil =>
      rw [daeItems]
      rfl
  | cons item items ih =>
      obtain ⟨first, others⟩ := List.forall_mem_cons.mp fits
      rw [Tlv.encodeAll_cons, List.length_append, readBytes_append] at area
      obtain ⟨head, tail⟩ := List.append_inj area (Avp.readBytes_length ..)
      have size : (memory (packet + 1)).toNat = item.value.length + 2 := by
        rw [readBytes_getElem? (k := 1) head rfl, first.length_byte]
      have type : memory packet = item.type := readBytes_getElem? (k := 0) head rfl
      have value : readBytes memory (packet + 2) item.value.length = item.value := by
        rw [Tlv.encode_length, Nat.add_comm, readBytes_append] at head
        change _ = [item.type, UInt8.ofNat (item.value.length + 2)] ++ item.value at head
        exact (List.append_inj head (Avp.readBytes_length ..)).2
      rw [daeItems, size, if_neg (by simp), if_neg (by omega), itemAt, size, type,
        Nat.add_sub_cancel, value, Tlv.encodeAll_cons, List.length_append, Tlv.encode_length,
        Nat.add_sub_cancel_left]
      exact congrArg _ (ih others tail)

theorem sessionbyip_found {ip : InAddr} (found : sessionbyip st ip ≠ 0) :
    sessionbyip st ip < maxSession ∧ (st.session (sessionbyip st ip)).opened ≠ 0 := by
  simp only [sessionbyip] at found ⊢
  split at found
  · rename_i inUse
    rw [if_pos inUse]
    exact inUse.2
  · exact absurd rfl found

theorem sessionbyuser_found {username : List UInt8} (found : sessionbyuser st username ≠ 0) :
    sessionbyuser st username ≤ st.highestSessionid ∧
      (st.session (sessionbyuser st username)).opened ≠ 0 ∧
      (st.session (sessionbyuser st username)).user = username := by
  simp only [sessionbyuser] at found ⊢
  cases first : ((List.range (st.highestSessionid + 1)).drop 1).find? fun s =>
      (st.session s).opened ≠ 0 ∧ ¬ (st.session s).walledGarden ∧
        (st.session s).user = username with
  | none =>
      rw [first] at found
      exact absurd rfl found
  | some s =>
      have fits := List.find?_some first
      have listed := List.mem_of_mem_drop (List.mem_of_find?_eq_some first)
      simp only [decide_eq_true_eq] at fits
      rw [List.mem_range] at listed
      exact ⟨by simpa using Nat.le_of_lt_succ listed, fits.1, fits.2.2⟩

/-- The session that is found has everything that was looked for. -/
structure Finds (st : State) (unpacked : Unpacked) (s : Nat) : Prop where
  accepted : unpacked.refusal = 0
  positive : 0 < s
  opened : (st.session s).opened ≠ 0
  port : unpacked.port ≠ 0 → s = unpacked.port
  ip : unpacked.ip ≠ 0 → sessionbyip st unpacked.ip = s
  user : unpacked.username ≠ [] → (st.session s).user = unpacked.username
  within : st.highestSessionid < maxSession → unpacked.port < maxSession ∨ unpacked.ip ≠ 0 →
    s < maxSession

theorem selectPort_found (range : unpacked.port ≤ maxSession)
    (granted : (selectPort st unpacked).error = 0) :
    unpacked.refusal = 0 ∧ (selectPort st unpacked).s = unpacked.port ∧
      (unpacked.port ≠ 0 → (st.session unpacked.port).opened ≠ 0) := by
  rw [selectPort] at granted ⊢
  have small : unpacked.port % 2 ^ 16 = unpacked.port := by
    apply Nat.mod_eq_of_lt
    rw [maxSession] at range
    omega
  split at granted
  · rename_i given
    rw [if_pos given]
    simp only [small] at granted ⊢
    refine ⟨given.1, trivial, fun _ closed => ?_⟩
    simp [closed] at granted
  · rename_i free
    rw [if_neg free]
    simp only at granted ⊢
    have none : unpacked.port = 0 := by_contra fun given => free ⟨granted, given⟩
    exact ⟨granted, none.symm, fun given => absurd none given⟩

theorem selectIp_found (granted : (selectIp st unpacked selected).error = 0) :
    selected.error = 0 ∧
      ((unpacked.ip = 0 ∧ selectIp st unpacked selected = selected) ∨
        (unpacked.ip ≠ 0 ∧ (selectIp st unpacked selected).s = sessionbyip st unpacked.ip ∧
          sessionbyip st unpacked.ip ≠ 0 ∧
          (selected.s ≠ 0 → selected.s = sessionbyip st unpacked.ip))) := by
  rw [selectIp] at granted ⊢
  split at granted
  · rename_i given
    rw [if_pos given]
    simp only at granted ⊢
    split at granted
    · exact nomatch granted
    · rename_i matching
      rw [if_neg matching]
      refine ⟨given.1, .inr ⟨given.2, rfl, fun none => matching (.inl none), fun named => ?_⟩⟩
      exact by_contra fun differ => matching (.inr ⟨named, differ⟩)
  · rename_i free
    rw [if_neg free]
    exact ⟨granted, .inl ⟨by_contra fun given => free ⟨granted, given⟩, rfl⟩⟩

theorem selectUser_found (granted : (selectUser st unpacked selected).error = 0) :
    selected.error = 0 ∧
      ((unpacked.username = [] ∧ (selectUser st unpacked selected).s = selected.s) ∨
        (selected.s ≠ 0 ∧ (selectUser st unpacked selected).s = selected.s ∧
          (st.session selected.s).user = unpacked.username) ∨
        (selected.s = 0 ∧
          (selectUser st unpacked selected).s = sessionbyuser st unpacked.username ∧
          sessionbyuser st unpacked.username ≠ 0)) := by
  rw [selectUser] at granted ⊢
  split at granted
  · rename_i given
    rw [if_pos given]
    split at granted
    · rename_i named
      rw [if_pos named]
      refine ⟨given.1, .inr (.inl ⟨named, rfl, ?_⟩)⟩
      by_contra differ
      simp [differ] at granted
    · rename_i unnamed
      rw [if_neg unnamed]
      refine ⟨given.1, .inr (.inr ⟨not_not.mp unnamed, rfl, fun none => ?_⟩)⟩
      simp [none] at granted
  · rename_i free
    rw [if_neg free]
    exact ⟨granted, .inl ⟨by_contra fun given => free ⟨granted, given⟩, rfl⟩⟩

theorem Unpacked.refusal_eq_zero :
    unpacked.refusal = 0 ↔ unpacked.error = 0 ∧ ¬ unpacked.authOnly ∧
      ¬ (unpacked.port = 0 ∧ unpacked.ip = 0 ∧ unpacked.username = []) := by
  rw [Unpacked.refusal]
  split_ifs with wrong only unsupported unnamed <;> simp_all

/-- What the number and the address have found. -/
theorem selectIp_finds (range : unpacked.port ≤ maxSession)
    (granted : (selectIp st unpacked (selectPort st unpacked)).error = 0) :
    let s := (selectIp st unpacked (selectPort st unpacked)).s
    unpacked.refusal = 0 ∧ (s = 0 → unpacked.port = 0 ∧ unpacked.ip = 0) ∧
      (s ≠ 0 → (st.session s).opened ≠ 0 ∧ (unpacked.port < maxSession ∨ unpacked.ip ≠ 0 →
        s < maxSession)) ∧
      (unpacked.port ≠ 0 → s = unpacked.port) ∧
      (unpacked.ip ≠ 0 → sessionbyip st unpacked.ip = s) := by
  obtain ⟨granted, ip⟩ := selectIp_found granted
  obtain ⟨accepted, port, opened⟩ := selectPort_found range granted
  rcases ip with ⟨none, same⟩ | ⟨given, found, some, matching⟩
  · simp only [same, port]
    refine ⟨accepted, fun absent => ⟨absent, none⟩, fun named => ⟨opened named, ?_⟩,
      fun _ => trivial, fun given => absurd none given⟩
    rintro (small | given)
    · exact small
    · exact absurd none given
  · simp only [found]
    have inUse := sessionbyip_found some
    exact ⟨accepted, fun absent => absurd absent some, fun _ => ⟨inUse.2, fun _ => inUse.1⟩,
      fun named => (matching (port ▸ named)).symm.trans port, fun _ => trivial⟩

theorem selectSession_finds (range : unpacked.port ≤ maxSession)
    (granted : (selectSession st unpacked).error = 0) :
    Finds st unpacked (selectSession st unpacked).s := by
  rw [selectSession] at granted ⊢
  obtain ⟨granted, user⟩ := selectUser_found granted
  obtain ⟨accepted, absent, inUse, port, ip⟩ := selectIp_finds range granted
  generalize selectIp st unpacked (selectPort st unpacked) = selected at *
  rcases user with ⟨none, same⟩ | ⟨named, same, user⟩ | ⟨unnamed, found, some⟩
  · have named : selected.s ≠ 0 := fun none' =>
      (Unpacked.refusal_eq_zero.mp accepted).2.2 ⟨(absent none').1, (absent none').2, none⟩
    rw [same]
    exact ⟨accepted, Nat.pos_of_ne_zero named, (inUse named).1, port, ip,
      fun given => absurd none given, fun _ => (inUse named).2⟩
  · rw [same]
    exact ⟨accepted, Nat.pos_of_ne_zero named, (inUse named).1, port, ip, fun _ => user,
      fun _ => (inUse named).2⟩
  · obtain ⟨noPort, noIp⟩ := absent unnamed
    obtain ⟨listed, opened, user⟩ := sessionbyuser_found some
    rw [found]
    exact ⟨accepted, Nat.pos_of_ne_zero some, opened, fun given => absurd noPort given,
      fun given => absurd noIp given, fun _ => user, fun highest _ => by omega⟩

theorem selectSession_accepts (granted : (selectSession st unpacked).error = 0) :
    unpacked.refusal = 0 := by
  rw [selectSession] at granted
  have port := (selectIp_found (selectUser_found granted).1).1
  rw [selectPort] at port
  split at port
  · rename_i given
    exact given.1
  · exact port

section

variable (st) (authentic : Authentic server memory len items)

include authentic

theorem Authentic.takes : TakesAll server st items .initial
    (unpack server st memory len (ntohs memory 2 - headerSize) headerSize .initial) := by
  have items' := daeItems_encodeAll (fun item member => (authentic.wellFormed item member).1)
    authentic.area
  have takes := @unpack_takes server st memory len headerSize .initial
    (Tlv.encodeAll items).length (by
      rw [items']
      exact fun item member long => ((authentic.wellFormed item member).2 long).ge)
  rw [authentic.size, Nat.add_sub_cancel_left]
  rwa [items'] at takes

theorem Authentic.processdae_eq {unpacked : Unpacked}
    (unpacks : unpack server st memory len (ntohs memory 2 - headerSize) headerSize .initial =
      unpacked) :
    ∃ response, (processdae server st memory len).response = some response ∧
      if (selectSession st unpacked).error = 0 then
        IsAck response ∧ (processdae server st memory len).st =
          applyRequest server st memory unpacked (selectSession st unpacked).s
      else ¬ IsAck response ∧ (processdae server st memory len).st = st := by
  have size := authentic.size
  have received := authentic.received
  have known : ¬ (memory 0 ≠ disconnectRequest ∧ memory 0 ≠ coARequest) := fun unknown =>
    authentic.code.elim unknown.1 unknown.2
  rw [processdae, if_neg (by omega), if_neg known, if_neg (by simp [authentic.master])]
  simp only [authentic.vector, ne_eq, not_true_eq_false, ↓reduceIte, unpacks]
  by_cases granted : (selectSession st unpacked).error = 0
  · simp only [granted, not_true_eq_false, ↓reduceIte]
    refine ⟨_, rfl, ?_, trivial⟩
    split <;> simp [IsAck, daeResponse, disconnectACK, coAACK]
  · simp only [granted, not_false_eq_true, ↓reduceIte]
    refine ⟨_, rfl, ?_, trivial⟩
    split <;> simp [IsAck, daeResponse, disconnectACK, coAACK, disconnectNAK, coANAK]

theorem Authentic.actsExactly_iff {unpacked : Unpacked}
    (unpacks : unpack server st memory len (ntohs memory 2 - headerSize) headerSize .initial =
      unpacked) :
    ActsExactly server st memory len items ↔ ((selectSession st unpacked).error = 0 →
      (∀ item ∈ items, ¬ NamesError server st item) ∧ ∃ s, Identified st items s ∧
        applyRequest server st memory unpacked (selectSession st unpacked).s =
          applyRequest server st memory unpacked s) := by
  obtain ⟨response, answered, handled⟩ := authentic.processdae_eq st unpacks
  constructor
  · intro exact granted
    rw [if_pos granted] at handled
    obtain ⟨sound, s, identified, same⟩ := exact.acked response answered handled.1
    rw [unpacks] at same
    exact ⟨sound, s, identified, handled.2.symm.trans same⟩
  · intro sound
    by_cases granted : (selectSession st unpacked).error = 0
    · rw [if_pos granted] at handled
      obtain ⟨errors, s, identified, same⟩ := sound granted
      refine ⟨fun other answered' _ => ⟨errors, s, identified, ?_⟩,
        fun other answered' notAck => ?_⟩
      · rw [unpacks, handled.2, same]
      · rw [answered] at answered'
        exact absurd (Option.some.inj answered' ▸ handled.1) notAck
    · rw [if_neg granted] at handled
      refine ⟨fun other answered' ack => ?_, fun other answered' _ => handled.2⟩
      rw [answered] at answered'
      exact absurd (Option.some.inj answered' ▸ ack) handled.1

end

/-- The variables hold what the last attributes say. -/
structure Holds (server : DaeServer) (st : State) (items : List Tlv) (unpacked : Unpacked) :
    Prop where
  username : unpacked.username = userOf items
  port : unpacked.port = portOf items
  ip : unpacked.ip = ipOf items
  authOnly : unpacked.authOnly = authorizeOnly items
  error : unpacked.error = 0 ↔ ∀ item ∈ items, ¬ SetsError server st item

theorem Authentic.holds (authentic : Authentic server memory len items) (st : State) :
    Holds server st items
      (unpack server st memory len (ntohs memory 2 - headerSize) headerSize .initial) := by
  have takes := authentic.takes st
  exact ⟨takes.username, takes.port, takes.ip, takes.authOnly, takes.error.trans (by
    simp [Unpacked.initial])⟩

theorem lastValue_mem (last : lastValue type items = some value) :
    ∃ item ∈ items, item.type.toNat = type ∧ item.value = value := by
  induction items with
  | nil => exact nomatch last
  | cons item items ih =>
      rw [lastValue, Option.or_eq_some_iff] at last
      rcases last with behind | ⟨-, here⟩
      · obtain ⟨other, member, found⟩ := ih behind
        exact ⟨other, List.mem_cons_of_mem item member, found⟩
      · split at here
        · rename_i same
          exact ⟨item, List.mem_cons_self, same, Option.some.inj here⟩
        · exact nomatch here

theorem portOf_le (sound : ∀ item ∈ items, ¬ SetsError server st item) :
    portOf items ≤ maxSession := by
  rw [portOf]
  cases last : lastValue 5 items with
  | none => exact Nat.zero_le _
  | some value =>
      obtain ⟨item, member, type, rfl⟩ := lastValue_mem last
      have range := sound item member
      simp only [SetsError, type] at range
      exact Nat.le_of_not_lt fun large => range (.inr large)

variable {s : Nat}

/-- A request that its attributes refuse is not granted. -/
theorem Holds.refused (holds : Holds server st items unpacked)
    (refuses : RefusesItself server st items) : (selectSession st unpacked).error ≠ 0 := by
  intro granted
  have accepted := selectSession_accepts granted
  obtain ⟨sound, wanted, named⟩ := Unpacked.refusal_eq_zero.mp accepted
  rw [holds.error] at sound
  rw [holds.authOnly] at wanted
  rw [holds.port, holds.ip, holds.username] at named
  have finds := selectSession_finds (holds.port ▸ portOf_le sound) granted
  rcases refuses with ⟨item, member, wrong⟩ | only | unnamed | ⟨large, given⟩
  · exact sound item member wrong
  · exact wanted only
  · exact named unnamed
  · have port := finds.port
    have ip := finds.ip
    rw [holds.port, large] at port
    rw [holds.ip] at ip
    have found := ip given
    have someone : sessionbyip st (ipOf items) ≠ 0 := by
      rw [found]
      exact finds.positive.ne'
    have below := (sessionbyip_found someone).1
    rw [found, port (by simp [maxSession])] at below
    exact Nat.lt_irrefl _ below

theorem Finds.identified (finds : Finds st unpacked s) (holds : Holds server st items unpacked)
    (tables : Tables st) (sound : ∀ item ∈ items, ¬ SetsError server st item)
    (agrees : ∀ item ∈ items, Agrees st items item) : Identified st items s := by
  refine ⟨finds.positive, ?_, finds.opened, fun item member => ?_⟩
  · refine finds.within tables.highest ?_
    rw [holds.port, holds.ip]
    by_cases given : portOf items = 0
    · exact .inl (given ▸ by simp [maxSession])
    · rw [portOf] at given ⊢
      cases last : lastValue 5 items with
      | none =>
          rw [last] at given
          exact absurd rfl given
      | some value =>
          obtain ⟨item, member, type, rfl⟩ := lastValue_mem last
          have agree := agrees item member
          simp only [Agrees, type, portOf, last] at agree
          exact .inl agree.2
  · have agree := agrees item member
    have user := finds.user
    have port := finds.port
    have ip := finds.ip
    rw [holds.username] at user
    rw [holds.port] at port
    rw [holds.ip] at ip
    unfold Agrees at agree
    unfold Identifies
    split at agree <;> rename_i type <;> simp only [type]
    · exact (user agree.2).trans agree.1.symm
    · have range := sound item member
      simp only [SetsError, type] at range
      rw [agree.1] at range ⊢
      exact port fun none => range (.inl (none ▸ Nat.one_pos))
    · rw [agree.1]
      exact ip agree.2

theorem Agrees.noError (agree : Agrees st items item) (sound : ¬ SetsError server st item) :
    ¬ NamesError server st item := by
  unfold Agrees at agree
  unfold SetsError at sound
  unfold NamesError
  split at agree
  · simp [*]
  · rename_i type
    simp only [type] at sound ⊢
    rw [agree.1] at sound ⊢
    omega
  · simp [*]
  · simp [*]
  · rename_i type
    simpa [type] using agree
  · split <;> simp_all

/-- A request that its attributes refuse, or whose attributes agree, acts exactly. -/
theorem Authentic.acts (authentic : Authentic server memory len items) (tables : Tables st)
    (condition : RefusesItself server st items ∨ ∀ item ∈ items, Agrees st items item) :
    ActsExactly server st memory len items := by
  have holds := authentic.holds st
  rw [authentic.actsExactly_iff st rfl]
  intro granted
  rcases condition with refuses | agrees
  · exact absurd granted (holds.refused refuses)
  · have sound := holds.error.mp
      (Unpacked.refusal_eq_zero.mp (selectSession_accepts granted)).1
    have finds := selectSession_finds (holds.port ▸ portOf_le sound) granted
    exact ⟨fun item member => (agrees item member).noError (sound item member), _,
      finds.identified holds tables sound agrees, rfl⟩

/-- The session that a table for these attributes has. -/
def targetOf (items : List Tlv) : Nat := if portOf items = 0 then 1 else portOf items

/-- Its user; one that has a name if the last attributes do not say. -/
def targetUser (items : List Tlv) : List UInt8 :=
  if userOf items = [] then [85] else userOf items

/-- A table with one session, which has what the last attributes say. -/
def targetState (st : State) (items : List Tlv) : State :=
  { State.start .zero (fun _ => .zero) 0 0 0 with
    filterName := st.filterName
    highestSessionid := 1
    session := fun s =>
      if s = targetOf items then { Server.Session.zero with opened := 1, user := targetUser items }
      else .zero
    ipHash :=
      if ipOf items = 0 then .empty 0 3
      else Server.cacheIpmap (.empty 0 3) (ipOf items) (targetOf items) }

theorem targetState_tables (st : State) (items : List Tlv) : Tables (targetState st items) := by
  refine ⟨by simp [targetState, maxSession], fun s => ?_⟩
  have cut : 0 ∉ userOf items ∧ (userOf items).length < maxUser := by
    rw [userOf]
    cases lastValue 1 items with
    | none => simp [maxUser]
    | some value =>
        simp only [Option.elim_some, cString]
        refine ⟨fun nul => ?_, ?_⟩
        · have := List.mem_takeWhile_imp nul
          simp at this
        · have := (@List.takeWhile_prefix _ (value.take (maxUser - 1))
            (· ≠ (0 : UInt8))).length_le
          simp only [List.length_take] at this
          have : 0 < maxUser := by simp [maxUser]
          omega
  have whole : 0 ∉ targetUser items ∧ (targetUser items).length < maxUser := by
    rw [targetUser]
    split
    · simp [maxUser]
    · exact cut
  simp only [targetState]
  split
  · exact whole
  · simp [Server.Session.zero, maxUser]

theorem targetState_session (st : State) (items : List Tlv) {s : Nat}
    (opened : ((targetState st items).session s).opened ≠ 0) :
    s = targetOf items ∧ ((targetState st items).session s).user = targetUser items := by
  simp only [targetState] at opened ⊢
  split at opened
  · rename_i same
    exact ⟨same, by rw [if_pos same]⟩
  · exact absurd rfl opened

theorem targetState_opened (st : State) (items : List Tlv) :
    ((targetState st items).session (targetOf items)).opened = 1 ∧
      ((targetState st items).session (targetOf items)).user = targetUser items ∧
      ((targetState st items).session (targetOf items)).walledGarden = false := by
  simp [targetState, Server.Session.zero]

theorem targetState_byip (st : State) {items : List Tlv} (below : portOf items < maxSession)
    (a : InAddr) :
    sessionbyip (targetState st items) a =
      if a = ipOf items ∧ ipOf items ≠ 0 then targetOf items else 0 := by
  have positive : 0 < targetOf items ∧ targetOf items < maxSession := by
    rw [targetOf]
    rw [maxSession] at below ⊢
    split <;> omega
  have empty : Server.lookupIpmap (.empty 0 3) a = 0 := RadixTable.lookup_empty 3 _
  have cell : Server.lookupIpmap (targetState st items).ipHash a =
      if a = ipOf items ∧ ipOf items ≠ 0 then targetOf items else 0 := by
    simp only [targetState]
    by_cases none : ipOf items = 0
    · simp only [none, ↓reduceIte, empty]
      simp
    · rw [if_neg none, Server.lookup_cacheIpmap, empty]
      have small := positive.2
      rw [maxSession] at small
      simp only [none, not_false_eq_true, and_true, ne_eq]
      split
      · omega
      · rfl
  have opened := (targetState_opened st items).1
  rw [sessionbyip, cell]
  split
  · simp [positive, opened]
  · simp

theorem targetState_byuser (st : State) {items : List Tlv} (none : portOf items = 0)
    (given : userOf items ≠ []) : sessionbyuser (targetState st items) (userOf items) = 1 := by
  have target : targetOf items = 1 := if_pos none
  have opened := targetState_opened st items
  rw [target, targetUser, if_neg given] at opened
  have listed : (List.range ((targetState st items).highestSessionid + 1)).drop 1 = [1] := rfl
  simp [sessionbyuser, listed, opened]

theorem setsError_congr (same : st'.filterName = st.filterName) (item : Tlv) :
    SetsError server st' item = SetsError server st item := by
  have found (name : List UInt8) : Server.findFilter st' name = Server.findFilter st name := by
    rw [Server.findFilter, Server.findFilter, same]
  simp only [SetsError, filterIdOf, found]

theorem targetOf_pos (items : List Tlv) : targetOf items ≠ 0 := by
  rw [targetOf]
  split <;> omega

theorem targetState_port (accepted : unpacked.refusal = 0) (port : unpacked.port = portOf items)
    (range : portOf items ≤ maxSession) :
    (selectPort (targetState st items) unpacked).error = 0 ∧
      (selectPort (targetState st items) unpacked).s = portOf items := by
  rw [selectPort, port]
  by_cases none : portOf items = 0
  · simp [none, accepted]
  · have opened := targetState_opened st items
    rw [show targetOf items = portOf items from if_neg none] at opened
    have whole : portOf items % 2 ^ 16 = portOf items := by
      apply Nat.mod_eq_of_lt
      rw [maxSession] at range
      omega
    rw [if_pos ⟨accepted, none⟩]
    simp only [whole]
    simp [opened]

theorem targetState_ip (granted : selected.error = 0)
    (port : selected.s = portOf items) (ip : unpacked.ip = ipOf items)
    (below : ipOf items ≠ 0 → portOf items < maxSession) :
    (selectIp (targetState st items) unpacked selected).error = 0 ∧
      ((selectIp (targetState st items) unpacked selected).s = targetOf items ∨
        portOf items = 0 ∧ (selectIp (targetState st items) unpacked selected).s = 0) := by
  rw [selectIp, ip]
  by_cases none : ipOf items = 0
  · simp only [none, ne_eq, not_true_eq_false, and_false, ↓reduceIte]
    refine ⟨granted, ?_⟩
    rw [port, targetOf]
    split
    · rename_i absent
      exact .inr ⟨absent, absent⟩
    · exact .inl rfl
  · have found := targetState_byip st (below none) (ipOf items)
    rw [if_pos ⟨rfl, none⟩] at found
    have matching : ¬ (targetOf items = 0 ∨ portOf items ≠ 0 ∧ portOf items ≠ targetOf items) := by
      rw [targetOf]
      split <;> simp_all
    rw [if_pos ⟨granted, none⟩, found, port]
    simp only [matching, ↓reduceIte]
    exact ⟨granted, .inl trivial⟩

theorem targetState_grants (holds : Holds server (targetState st items) items unpacked)
    (accepts : ¬ RefusesItself server st items) :
    (selectSession (targetState st items) unpacked).error = 0 := by
  obtain ⟨sound, wanted, named, small⟩ :
      (∀ item ∈ items, ¬ SetsError server st item) ∧ ¬ authorizeOnly items ∧
        ¬ (portOf items = 0 ∧ ipOf items = 0 ∧ userOf items = []) ∧
        ¬ (portOf items = maxSession ∧ ipOf items ≠ 0) := by
    simpa [RefusesItself] using accepts
  have accepted : unpacked.refusal = 0 := by
    rw [Unpacked.refusal_eq_zero, holds.error, holds.authOnly, holds.port, holds.ip,
      holds.username]
    refine ⟨fun item member => ?_, wanted, named⟩
    rw [setsError_congr (show (targetState st items).filterName = st.filterName from rfl)]
    exact sound item member
  have range := portOf_le sound
  have ported : (selectPort (targetState st items) unpacked).error = 0 ∧
      (selectPort (targetState st items) unpacked).s = portOf items :=
    targetState_port accepted holds.port range
  rw [selectSession, selectUser, holds.username]
  generalize selectPort (targetState st items) unpacked = first at ported ⊢
  have below (given : ipOf items ≠ 0) : portOf items < maxSession :=
    Nat.lt_of_le_of_ne range fun large => small ⟨large, given⟩
  obtain ⟨granted, ip⟩ : (selectIp (targetState st items) unpacked first).error = 0 ∧
      ((selectIp (targetState st items) unpacked first).s = targetOf items ∨
        portOf items = 0 ∧ (selectIp (targetState st items) unpacked first).s = 0) :=
    targetState_ip ported.1 ported.2 holds.ip below
  generalize selectIp (targetState st items) unpacked first = selected at granted ip ⊢
  split
  · rename_i given
    rcases ip with target | ⟨none, unnamed⟩
    · simp [target, targetOf_pos, targetState_opened, targetUser, given.2]
    · simp [unnamed, targetState_byuser st none given.2]
  · exact granted

theorem lastValue_exists (member : item ∈ items) (same : item.type.toNat = type) :
    ∃ last ∈ items, last.type.toNat = type ∧ lastValue type items = some last.value := by
  cases found : lastValue type items with
  | none =>
      exfalso
      induction items with
      | nil => exact absurd member List.not_mem_nil
      | cons other items ih =>
          rw [lastValue, Option.or_eq_none_iff] at found
          rcases List.mem_cons.mp member with rfl | behind
          · simp [same] at found
          · exact ih behind found.1
  | some value =>
      obtain ⟨last, inside, type, rfl⟩ := lastValue_mem found
      exact ⟨last, inside, type, rfl⟩

/-- What the session of the table is identified by says the same as the last attributes. -/
theorem Identified.agrees {s : Nat} (identified : Identified (targetState st items) items s)
    (member : item ∈ items) (noError : ¬ NamesError server (targetState st items) item) :
    Agrees st items item := by
  have identifies := identified.identifies item member
  have user := (targetState_session st items identified.opened).2
  have port {other : Tlv} (inside : other ∈ items) (type : other.type.toNat = 5) :
      portOf items = s := by
    obtain ⟨last, inside, type, found⟩ := lastValue_exists inside type
    have number := identified.identifies last inside
    simp only [Identifies, type] at number
    rw [portOf, found, number]
    rfl
  have below : portOf items < maxSession := by
    by_cases none : portOf items = 0
    · exact none ▸ by simp [maxSession]
    · cases found : lastValue 5 items with
      | none => exact absurd (by rw [portOf, found]; rfl) none
      | some value =>
          obtain ⟨last, inside, type, -⟩ := lastValue_mem found
          exact port inside type ▸ identified.within
  unfold Identifies at identifies
  unfold NamesError at noError
  unfold Agrees
  split <;> rename_i type <;> simp only [type] at identifies noError ⊢
  · obtain ⟨last, inside, type, found⟩ := lastValue_exists member type
    have same := identified.identifies last inside
    simp only [Identifies, type] at same
    have read : userOf items = cString (last.value.take (maxUser - 1)) := by
      rw [userOf, found]
      rfl
    rw [user, targetUser] at identifies same
    split at same
    · rename_i empty
      rw [← same, empty] at read
      simp [cString, maxUser] at read
    · rename_i given
      rw [if_neg given] at identifies
      exact ⟨identifies.symm, given⟩
  · rw [port member type, ← identifies]
    exact ⟨rfl, identified.within⟩
  · exact noError
  · rw [targetState_byip st below] at identifies
    split at identifies
    · rename_i same
      exact same
    · exact absurd identifies.symm identified.positive.ne'
  · exact not_not.mp noError

/-- Some table has a request act on a session that it does not identify, or that it has an
error for, if its attributes neither refuse it nor agree. -/
theorem Authentic.misdirected (authentic : Authentic server memory len items)
    (accepts : ¬ RefusesItself server st items)
    (disagrees : ¬ ∀ item ∈ items, Agrees st items item) :
    ¬ ActsExactly server (targetState st items) memory len items := by
  have holds := authentic.holds (targetState st items)
  rw [authentic.actsExactly_iff _ rfl]
  intro exact
  obtain ⟨sound, s, identified, -⟩ := exact (targetState_grants holds accepts)
  exact disagrees fun item member => identified.agrees member (sound item member)

theorem refusesItself_congr (same : st'.filterName = st.filterName) :
    RefusesItself server st' items ↔ RefusesItself server st items := by
  simp only [RefusesItself, setsError_congr same]

theorem agrees_congr (same : st'.filterName = st.filterName) :
    Agrees st' items item ↔ Agrees st items item := by
  unfold Agrees
  split <;> simp only [NamesFilter, same]

/-- **Requests act exactly**, whatever sessions there are, on the one that they identify or on
none, if their own attributes refuse them or agree. -/
theorem dae_exact_iff (authentic : Authentic server memory len items) (st : State) :
    (∀ st', Tables st' → st'.filterName = st.filterName →
      ActsExactly server st' memory len items) ↔
      RefusesItself server st items ∨ ∀ item ∈ items, Agrees st items item := by
  constructor
  · intro exact
    by_contra neither
    rw [not_or] at neither
    exact authentic.misdirected neither.1 neither.2
      (exact _ (targetState_tables st items) rfl)
  · intro condition st' tables same
    refine authentic.acts tables (condition.imp (refusesItself_congr same).mpr ?_)
    exact fun agrees item member => (agrees_congr same).mpr (agrees item member)

/-- A master with this digest for the request that it is given. -/
def daeMaster (digest : List UInt8) : DaeServer where
  radiussecret := text "s"
  md5 _ k := digest.getD k 0
  iamMaster := true
  bindAddress := 0x0A000001
  behindIn _ := 0
  behindOut _ := 0
  radiusReset st _ := st
  radiusResponse st _ _ _ := st

/-- A request with its authenticator. -/
def daePacket (code : UInt8) (digest : List UInt8) (items : List Tlv) : List UInt8 :=
  [code, 1] ++ be16 (headerSize + (Tlv.encodeAll items).length) ++ digest ++ Tlv.encodeAll items

def portItem : Tlv := ⟨5, [0, 0, 0, 1]⟩

def disconnectDigest : List UInt8 :=
  [132, 97, 46, 109, 235, 155, 247, 107, 11, 137, 208, 127, 183, 164, 153, 60]

theorem disconnect_authentic : Authentic (daeMaster disconnectDigest)
    (stored (daePacket disconnectRequest disconnectDigest [portItem])) 26 [portItem] :=
  ⟨rfl, .inl rfl, rfl, by decide, rfl, by decide, rfl⟩

theorem dae_exact_port : ActsExactly (daeMaster disconnectDigest) Server.filterStart
    (stored (daePacket disconnectRequest disconnectDigest [portItem])) 26 [portItem] := by
  refine (dae_exact_iff disconnect_authentic Server.filterStart).mpr (.inr ?_) _ ?_ rfl
  · intro item member
    obtain rfl := List.mem_singleton.mp member
    exact ⟨rfl, by decide⟩
  · refine ⟨by simp [Server.filterStart, State.start, maxSession], fun s => ?_⟩
    simp only [Server.filterStart, State.start]
    split <;> simp [Server.Session.zero, maxUser]

/-- A Filter-Id without the text of a side. -/
def cutItem : Tlv := ⟨11, text "f."⟩

/-- The digest of a CoA request for session 1 with that Filter-Id. -/
def cutDigest : List UInt8 :=
  [188, 225, 6, 133, 43, 222, 8, 136, 119, 87, 238, 246, 46, 237, 210, 80]

/-- Tables with a filter `f`. -/
def cutState : State := { Server.filterStart with
  filterName := fun f => if f = 0 then text "f" else [] }

theorem cut_authentic : Authentic (daeMaster cutDigest)
    (stored (daePacket coARequest cutDigest [portItem, cutItem])) 30 [portItem, cutItem] :=
  ⟨rfl, .inr rfl, rfl, by decide, rfl, by decide, rfl⟩

/-- A request with half of a Filter-Id is granted. -/
theorem dae_granted : ¬ ∀ server memory len items, Authentic server memory len items →
    ∀ st, Tables st → ActsExactly server st memory len items := by
  intro exact
  have acts := exact _ _ _ _ cut_authentic _ (targetState_tables cutState [portItem, cutItem])
  refine cut_authentic.misdirected ?_ ?_ acts
  · have named : filterIdOf (daeMaster cutDigest) cutState (stored cutItem.value) 0
        cutItem.value.length = some (0, .inbound) := by decide
    rintro (⟨item, member, wrong⟩ | only | unnamed | large)
    · rcases List.mem_cons.mp member with rfl | member
      · have one : numberOf portItem.value = 1 := rfl
        simp [SetsError, portItem, maxSession] at wrong one
        omega
      · obtain rfl := List.mem_singleton.mp member
        exact nomatch named.symm.trans wrong
    · exact nomatch only
    · exact absurd unnamed.1 (by decide)
    · exact absurd large.1 (by decide)
  · intro agrees
    obtain ⟨f, -, side, some, value⟩ := agrees cutItem (by simp)
    simp only [cutState] at some value
    split at some
    · rename_i first
      cases side <;> simp [first, cutItem, sideText, text] at value
    · exact some rfl

end L2tpns.Radius
