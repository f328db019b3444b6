import L2tpns.Radius.Packet

/-! # Requests to the RADIUS servers

`radiussend` writes the attributes of a request one behind the other, with the length of
each next to its type. The length of Framed-Protocol goes through `htonl`; where the low byte
of a number comes first that is 0, and the attribute is written over by the next one. All
other attributes are in the packet as they should be, unless a terminate message is too long
for its length byte (`L2tpns.Radius.request_delivers_iff`). The password of a user is hidden
as it should be (`L2tpns.Radius.request_password`).
-/

namespace L2tpns.Radius

open Foundation
open Avp (Memory readBytes writeBytes)
open Server (RadiusState cString)

/-- The bytes of a string constant. -/
def text (string : String) : List UInt8 := string.toList.map fun char => UInt8.ofNat char.toNat

/-- `%u` -/
def decimal (n : Nat) : List UInt8 :=
  (Nat.toDigits 10 n).map fun char => UInt8.ofNat char.toNat

/-- `%d` -/
def decimalInt (n : Int) : List UInt8 :=
  (if n < 0 then [45] else []) ++ decimal n.natAbs

/-- `%08X` -/
def hex8 (n : UInt32) : List UInt8 :=
  (List.range 8).map fun k =>
    let digit := n.toNat / 16 ^ (7 - k) % 16
    UInt8.ofNat (if digit < 10 then 48 + digit else 55 + digit)

/-- An address as a dotted quad. -/
def fmtaddr (ip : UInt32) : List UInt8 :=
  decimal (ip.toNat / 2 ^ 24) ++ [46] ++ decimal (ip.toNat / 2 ^ 16 % 2 ^ 8) ++ [46] ++
    decimal (ip.toNat / 2 ^ 8 % 2 ^ 8) ++ [46] ++ decimal (ip.toNat % 2 ^ 8)

/-- The password field of a slot. The last byte is the terminator of the longest password. -/
structure PassField where
  bytes : List UInt8
  size : bytes.length = passSize
  ended : bytes.drop 128 = [0]

section Store

variable (field : PassField) (password : List UInt8)

theorem PassField.store_size : (password.take 128 ++
    List.replicate (128 - password.length) 0 ++ field.bytes.drop 128).length = passSize := by
  have size := field.size
  simp only [passSize] at size ⊢
  simp only [List.length_append, List.length_take, List.length_replicate, List.length_drop]
  omega

theorem PassField.store_ended : (password.take 128 ++
    List.replicate (128 - password.length) 0 ++ field.bytes.drop 128).drop 128 = [0] := by
  rw [List.drop_left', field.ended]
  simp only [List.length_append, List.length_take, List.length_replicate]
  omega

end Store

/-- `strncpy` of a password of a user. -/
def PassField.store (field : PassField) (password : List UInt8) : PassField where
  bytes := password.take 128 ++ List.replicate (128 - password.length) 0 ++ field.bytes.drop 128
  size := field.store_size password
  ended := field.store_ended password

structure Route where
  ip : UInt32
  prefixlen : Int32

/-- The fields of a session that requests tell of. Its strings are shorter than their
fields. -/
structure SessionFields where
  user : List UInt8
  called : List UInt8
  calling : List UInt8
  uniqueId : UInt32
  opened : UInt32
  cin : UInt32
  cout : UInt32
  pin : UInt32
  pout : UInt32
  cinWrap : UInt32
  coutWrap : UInt32
  /-- The first `classlen` bytes. -/
  class' : List UInt8
  throttleIn : UInt16
  throttleOut : UInt16
  ip : UInt32
  route : List Route
  sessionTimeout : UInt32
  idleTimeout : UInt32
  user_short : user.length < 128
  called_short : called.length < 96
  calling_short : calling.length < 96
  class_short : class'.length ≤ 128
  route_few : route.length ≤ 10

/-- A request: its state, the slot, the session, and what else is read. -/
structure Request where
  state : RadiusState
  id : UInt8
  auth : List UInt8
  pass : PassField
  pppId : UInt8
  chap : Bool
  termCause : UInt8
  termMsg : Option (List UInt8)
  s : UInt16
  session : SessionFields
  time : UInt32
  bindAddress : UInt32
  /-- The throttling plugin is loaded. -/
  autothrottle : Bool
  sends : state ≠ .null ∧ state ≠ .chap ∧ state ≠ .wait
  auth_size : auth.length = 16

namespace Request

variable (request : Request)

def hasSession : Prop := request.s ≠ 0

instance : Decidable request.hasSession := inferInstanceAs (Decidable (_ ≠ _))

/-- `RADIUSSTART` is 1, stop 2 and interim 3. -/
def statusType : UInt32 :=
  match request.state with
  | .start => 1
  | .stop => 2
  | .interim => 3
  | _ => 0

def putUser (writer : Writer) : Writer := writer.putString 1 request.session.user

/-- A response to a challenge, and the challenge. -/
def putChap (writer : Writer) : Writer :=
  (writer.put 3 19 (request.pppId :: request.pass.bytes.take 16)).put 60 18 request.auth

def putPassword (value : List UInt8) (writer : Writer) : Writer :=
  writer.put 2 (UInt8.ofNat (value.length + 2)) value

/-- What a Stop or an Interim record counts. -/
def putCounters (writer : Writer) : Writer :=
  ((((((writer.putNumber 42 request.session.cin).putNumber 43 request.session.cout).putNumber 46
    (request.time - request.session.opened)).putNumber 47 request.session.pin).putNumber 48
    request.session.pout).putNumber 52 request.session.cinWrap).putNumber 53
    request.session.coutWrap

def discCause (message : List UInt8) : List UInt8 := text "disc-cause-ext=" ++ message

/-- Why a session is stopped. -/
def putTerminate (writer : Writer) : Writer :=
  let caused := writer.putNumber 49 request.termCause.toUInt32
  match request.termMsg with
  | some message => caused.putAvpair (discCause message)
  | none => caused

def policy (i : Nat) (direction : String) (rate : UInt16) : List UInt8 :=
  text "lcp:interface-config#" ++ decimal i ++ text "=service-policy " ++ text direction ++
    text " " ++ decimal rate.toNat

/-- `plugin_radius_account`: the throttling of a session. -/
def pluginRadiusAccount (writer : Writer) : Writer :=
  let session := request.session
  let inbound := writer.putIf (session.throttleIn ≠ 0) fun writer =>
    writer.putAvpair (policy 1 "input" session.throttleIn)
  inbound.putIf (session.throttleOut ≠ 0) fun writer =>
    writer.putAvpair (policy (if session.throttleIn ≠ 0 then 2 else 1) "output"
      session.throttleOut)

/-- The records of a session. -/
def putRecords (writer : Writer) : Writer :=
  let session := request.session
  let named := writer.putString 44 (hex8 session.uniqueId ++ hex8 session.opened)
  let counted :=
    if request.state = .start then named.putNumber 41 (request.time - session.opened)
    else
      (request.putCounters named).putIf (request.state = .stop ∧ request.termCause ≠ 0)
        request.putTerminate
  let classed := counted.putIf (session.class' ≠ []) fun writer =>
    writer.put 25 (UInt8.ofNat (session.class'.length + 2)) session.class'
  classed.putIf request.autothrottle request.pluginRadiusAccount

def routeText (route : Route) : List UInt8 :=
  fmtaddr route.ip ++ text "/" ++ decimalInt route.prefixlen.toInt ++ text " " ++
    fmtaddr request.session.ip ++ text " 1"

/-- The routes up to the first without an address. -/
def putRoutes (writer : Writer) : Writer :=
  (request.session.route.takeWhile (·.ip ≠ 0)).foldl
    (fun writer route => writer.putString 22 (request.routeText route)) writer

/-- The length byte of Framed-Protocol is what `htonl` makes of the length. -/
def putFramedProtocol (bigEndian : Bool) (writer : Writer) : Writer :=
  writer.put 7 (UInt8.ofNat (htonl bigEndian (if request.state = .justauth then 0 else 6)))
    (be32 (if request.state = .justauth then 0 else 1))

/-- What is told of a session in every request. -/
def putSession (bigEndian : Bool) (writer : Writer) : Writer :=
  let session := request.session
  let serviceType := if request.state = .justauth then 8 else 2
  let framed := request.putFramedProtocol bigEndian
    ((writer.putNumber 5 request.s.toUInt32).putNumber 6 serviceType)
  let addressed := framed.putIf (session.ip ≠ 0) fun writer => writer.putNumber 8 session.ip
  ((((request.putRoutes addressed).putIf (session.sessionTimeout ≠ 0) fun writer =>
    writer.putNumber 27 session.sessionTimeout).putIf (session.idleTimeout ≠ 0) fun writer =>
    writer.putNumber 28 session.idleTimeout).putIf (session.called ≠ []) fun writer =>
    writer.putString 30 session.called).putIf (session.calling ≠ []) fun writer =>
    writer.putString 31 session.calling

/-- The attributes, with the value of User-Password if there is one. -/
def putAll (bigEndian : Bool) (value : List UInt8) (writer : Writer) : Writer :=
  let named := writer.putIf request.hasSession request.putUser
  let asked :=
    if request.state.isAuth then
      if request.chap then request.putChap named else putPassword value named
    else
      (named.putNumber 40 request.statusType).putIf request.hasSession request.putRecords
  (asked.putIf request.hasSession (request.putSession bigEndian)).putNumber 4 request.bindAddress

/-- The packet before its attributes: the code, the identifier and the authenticator. -/
def header (stack : Memory) : Memory :=
  let code := if request.state.isAuth then 1 else 4
  writeBytes (writeBytes stack 0 [code, request.id]) 4 request.auth

/-- What is sent, how far the buffer was written, and what the length field is. -/
structure Sent where
  bytes : List UInt8
  top : Nat

/-- Set the length, and in an accounting packet the authenticator. -/
def finish (config : Config) (writer : Writer) : Sent :=
  let sized := writeBytes writer.memory 2 (be16 writer.p)
  let signed :=
    if request.state.isAuth then sized
    else
      let digest := config.md5 (readBytes sized 0 4 ++ List.replicate 16 0 ++
        readBytes sized headerSize (writer.p - headerSize) ++ config.radiussecret)
      writeBytes sized 4 (List.ofFn digest)
  ⟨readBytes signed 0 writer.p, writer.top⟩

/-- The packet that is sent; none if an access is outside of the buffer for the password.
`stack` is what the buffers hold before. -/
def radiussend (config : Config) (bigEndian : Bool) (stack passStack : Memory) : Option Sent :=
  let start : Writer := ⟨request.header stack, headerSize, headerSize⟩
  if request.state.isAuth ∧ ¬ request.chap then
    (userPassword config request.auth request.pass.bytes passStack).map fun value =>
      request.finish config (request.putAll bigEndian value start)
  else some (request.finish config (request.putAll bigEndian [] start))

def userItems : List Tlv := if request.hasSession then [⟨1, request.session.user⟩] else []

def chapItems : List Tlv :=
  [⟨3, request.pppId :: request.pass.bytes.take 16⟩, ⟨60, request.auth⟩]

def counterItems : List Tlv :=
  let session := request.session
  [⟨42, be32 session.cin⟩, ⟨43, be32 session.cout⟩,
    ⟨46, be32 (request.time - session.opened)⟩, ⟨47, be32 session.pin⟩,
    ⟨48, be32 session.pout⟩, ⟨52, be32 session.cinWrap⟩, ⟨53, be32 session.coutWrap⟩]

def terminateItems : List Tlv :=
  ⟨49, be32 request.termCause.toUInt32⟩ ::
    match request.termMsg with
    | some message => [⟨26, avpair (discCause message)⟩]
    | none => []

def throttleItems : List Tlv :=
  let session := request.session
  (if session.throttleIn ≠ 0 then [⟨26, avpair (policy 1 "input" session.throttleIn)⟩]
    else []) ++
  if session.throttleOut ≠ 0 then
    [⟨26, avpair (policy (if session.throttleIn ≠ 0 then 2 else 1) "output"
      session.throttleOut)⟩]
  else []

def recordItems : List Tlv :=
  let session := request.session
  [⟨44, hex8 session.uniqueId ++ hex8 session.opened⟩] ++
    (if request.state = .start then [⟨41, be32 (request.time - session.opened)⟩]
    else
      request.counterItems ++
        if request.state = .stop ∧ request.termCause ≠ 0 then request.terminateItems else []) ++
    (if session.class' ≠ [] then [⟨25, session.class'⟩] else []) ++
    if request.autothrottle then request.throttleItems else []

def routeItems : List Tlv :=
  (request.session.route.takeWhile (·.ip ≠ 0)).map fun route => ⟨22, request.routeText route⟩

/-- `framed` is what is there of Framed-Protocol. -/
def sessionItems (framed : List Tlv) : List Tlv :=
  let session := request.session
  let serviceType := if request.state = .justauth then 8 else 2
  [⟨5, be32 request.s.toUInt32⟩, ⟨6, be32 serviceType⟩] ++ framed ++
    (if session.ip ≠ 0 then [⟨8, be32 session.ip⟩] else []) ++ request.routeItems ++
    (if session.sessionTimeout ≠ 0 then [⟨27, be32 session.sessionTimeout⟩] else []) ++
    (if session.idleTimeout ≠ 0 then [⟨28, be32 session.idleTimeout⟩] else []) ++
    (if session.called ≠ [] then [⟨30, session.called⟩] else []) ++
    if session.calling ≠ [] then [⟨31, session.calling⟩] else []

/-- All attributes. -/
def items (framed : List Tlv) (value : List UInt8) : List Tlv :=
  request.userItems ++
    (if request.state.isAuth then if request.chap then request.chapItems else [⟨2, value⟩]
    else
      ⟨40, be32 request.statusType⟩ ::
        if request.hasSession then request.recordItems else []) ++
    (if request.hasSession then request.sessionItems framed else []) ++
    [⟨4, be32 request.bindAddress⟩]

end Request

end L2tpns.Radius
