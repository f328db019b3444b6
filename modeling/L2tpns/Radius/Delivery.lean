import L2tpns.Radius.Attributes

/-! # What the servers get from a request

A request delivers all attributes of its session if they can be read from it, one behind the
other, and its length is what is sent. It does so exactly if the host keeps the order of
bytes of the network, more than an authentication is asked for, and the reason of a Stop
record is short (`L2tpns.Radius.request_delivers_iff`). The password of a user is delivered
by every request that has one (`L2tpns.Radius.request_password`).
-/

namespace L2tpns.Radius

open Foundation
open Avp (Memory readBytes)
open Server (RadiusState cString)

theorem cString_append (before behind : List UInt8) :
    (cString (before ++ 0 :: behind)).length ≤ before.length := by
  induction before with
  | nil => simp [cString]
  | cons byte before ih =>
      rw [cString] at ih ⊢
      rw [List.cons_append, List.takeWhile_cons]
      split
      · simp only [List.length_cons]
        omega
      · exact Nat.zero_le _

theorem PassField.cString_short (field : PassField) : (cString field.bytes).length ≤ 128 := by
  have size := field.size
  simp only [passSize] at size
  have short := cString_append (field.bytes.take 128) []
  rw [← field.ended, List.take_append_drop, List.length_take] at short
  omega

/-- What is stored is read as a string again. -/
theorem PassField.cString_store (field : PassField) {password : List UInt8}
    (free : 0 ∉ password) (short : password.length ≤ 128) :
    cString (field.store password).bytes = password := by
  obtain ⟨behind, bytes⟩ : ∃ behind, (field.store password).bytes = password ++ 0 :: behind := by
    simp only [PassField.store, List.take_of_length_le short, field.ended]
    cases left : 128 - password.length with
    | zero => exact ⟨[], by simp⟩
    | succ n => exact ⟨List.replicate n 0 ++ [0], by simp [List.replicate_succ]⟩
  rw [bytes, cString, List.takeWhile_append_of_pos]
  · simp
  · intro byte member
    simp only [ne_eq, decide_eq_true_eq]
    rintro rfl
    exact free member

namespace Request

variable {request : Request} {config : Config} {bigEndian : Bool} {stack passStack : Memory}

def passwordValue (request : Request) (config : Config) (passStack : Memory) : List UInt8 :=
  (userPassword config request.auth request.pass.bytes passStack).getD []

/-- A request is always sent, and nothing is written outside of its buffers if what was
written was meant to. -/
theorem radiussend_items (short : request.ShortMessage) :
    ∃ sent, request.radiussend config bigEndian stack passStack = some sent ∧
      sent.top ≤ 4096 ∧ lengthField sent.bytes = sent.bytes.length ∧
      Tlv.parse (sent.bytes.drop headerSize) = some (request.items (request.framed bigEndian)
        (request.passwordValue config passStack)) := by
  obtain ⟨value, masked, length, -⟩ := @userPassword_reveals config request.auth
    request.pass.bytes passStack request.pass.cString_short
  have stored := request.pass.cString_short
  have few : value.length ≤ 128 := by
    rw [length, blocksLength]
    omega
  have given : request.passwordValue config passStack = value := by
    rw [passwordValue, masked]
    rfl
  have start : Writer.Holds ⟨request.header stack, headerSize, headerSize⟩ [] :=
    ⟨rfl, rfl, by simp [headerSize]⟩
  have finished (value : List UInt8) (few : value.length ≤ 128) :
      let writer := request.putAll bigEndian value
        ⟨request.header stack, headerSize, headerSize⟩
      (request.finish config writer).top ≤ 4096 ∧
        lengthField (request.finish config writer).bytes =
          (request.finish config writer).bytes.length ∧
        Tlv.parse ((request.finish config writer).bytes.drop headerSize) =
          some (request.items (request.framed bigEndian) value) := by
    intro writer
    have adds := request.adds_all bigEndian short few
    have holds := adds.holds _ _ start
    rw [List.nil_append] at holds
    have size := adds.size
    have pointer := holds.pointer
    have top := holds.top
    obtain ⟨field, area⟩ := @finish_delivers request config writer _ holds (by omega)
    refine ⟨?_, field, ?_⟩
    · have begins : headerSize = 20 := rfl
      change writer.top ≤ 4096
      change writer.p = _ at pointer
      change writer.top ≤ writer.p + 6 at top
      omega
    · rw [area, Tlv.parse_encodeAll adds.fits]
  by_cases asks : request.state.isAuth ∧ ¬ request.chap
  · refine ⟨request.finish config (request.putAll bigEndian value
      ⟨request.header stack, headerSize, headerSize⟩), ?_, ?_⟩
    · rw [radiussend, if_pos asks, masked]
      rfl
    · rw [given]
      exact finished value few
  · have unused : request.items (request.framed bigEndian)
        (request.passwordValue config passStack) =
        request.items (request.framed bigEndian) [] := by
      unfold items
      by_cases auth : request.state.isAuth
      · have chap : request.chap = true := by
          by_contra other
          exact asks ⟨auth, other⟩
        simp only [auth, chap, ↓reduceIte]
      · simp only [auth]
        rfl
    refine ⟨request.finish config (request.putAll bigEndian []
      ⟨request.header stack, headerSize, headerSize⟩), ?_, ?_⟩
    · rw [radiussend, if_neg asks]
    · rw [unused]
      exact finished [] (by simp)

/-- The request is well formed and tells of everything, Framed-Protocol included. -/
def Delivers (request : Request) (config : Config) (bigEndian : Bool)
    (stack passStack : Memory) : Prop :=
  ∃ sent, request.radiussend config bigEndian stack passStack = some sent ∧
    sent.top ≤ 4096 ∧ lengthField sent.bytes = sent.bytes.length ∧
    Tlv.parse (sent.bytes.drop headerSize) =
      some (request.items [⟨7, be32 1⟩] (request.passwordValue config passStack))

theorem short_of_delivers (session : request.hasSession)
    (delivers : request.Delivers config bigEndian stack passStack) : request.ShortMessage := by
  obtain ⟨sent, -, -, -, read⟩ := delivers
  intro stops caused message given
  have fits := (Tlv.encodeAll_of_parse read).2 ⟨26, avpair (discCause message)⟩ (by
    have told : ⟨26, avpair (discCause message)⟩ ∈ request.terminateItems := by
      rw [terminateItems, Option.mem_def.mp given]
      simp
    have auth : RadiusState.stop.isAuth = false := rfl
    unfold items recordItems
    simp [auth, session, stops, caused, told])
  change (avpair (discCause message)).length ≤ 253 at fits
  rw [avpair_length, discCause, List.length_append, text_length] at fits
  change 15 + _ + 6 ≤ 253 at fits
  omega

/-- Framed-Protocol is delivered only where it is written. -/
theorem framed_of_delivers (session : request.hasSession)
    (delivers : request.Delivers config bigEndian stack passStack) :
    bigEndian = true ∧ request.state ≠ .justauth := by
  obtain ⟨sent', sends', -, -, read'⟩ := @radiussend_items request config bigEndian stack
    passStack (short_of_delivers session delivers)
  obtain ⟨sent, sends, -, -, read⟩ := delivers
  rw [sends] at sends'
  obtain rfl := Option.some.inj sends'
  have same := Option.some.inj (read.symm.trans read')
  have count := congrArg List.length same
  by_contra unframed
  have none : request.framed bigEndian = [] := by
    rw [framed, if_neg unframed]
  rw [none] at count
  simp only [items, sessionItems, session, ↓reduceIte, List.length_append, List.length_cons,
    List.length_nil] at count
  omega

end Request

/-- **Requests.** The request of a session is well formed and its attributes read back as the
fields of the session, exactly if the host keeps the byte order of the network, the request
is not for authentication only, and the reason of a Stop record is not too long. -/
theorem request_delivers_iff (request : Request) (config : Config) (bigEndian : Bool)
    (stack passStack : Memory) (session : request.hasSession) :
    request.Delivers config bigEndian stack passStack ↔
      bigEndian = true ∧ request.state ≠ .justauth ∧ request.ShortMessage := by
  constructor
  · intro delivers
    have framed := Request.framed_of_delivers session delivers
    exact ⟨framed.1, framed.2, Request.short_of_delivers session delivers⟩
  · rintro ⟨order, framed, short⟩
    obtain ⟨sent, sends, top, field, read⟩ := @Request.radiussend_items request config bigEndian
      stack passStack short
    refine ⟨sent, sends, top, field, ?_⟩
    rw [read, Request.framed, if_pos ⟨order, framed⟩]

/-- **User-Password.** A PAP request has the password of the user in whole blocks; what the
server reveals is the password with zeros behind it, and nothing is written outside of the
buffers. -/
theorem request_password (request : Request) (config : Config) (bigEndian : Bool)
    (stack passStack : Memory) (field : PassField) (password : List UInt8)
    (free : 0 ∉ password) (short : password.length ≤ 128)
    (stored : request.pass = field.store password) (asks : request.state.isAuth = true)
    (pap : request.chap = false) :
    ∃ sent value behind, request.radiussend config bigEndian stack passStack = some sent ∧
      sent.top ≤ 4096 ∧
      Tlv.parse (sent.bytes.drop headerSize) =
        some (request.userItems ++ ⟨2, value⟩ :: behind) ∧
      value.length = 16 * ((password.length + 15) / 16) ∧
      (hidingChain config).reveal (config.md5 (config.radiussecret ++ request.auth)) value =
        password ++ List.replicate (value.length - password.length) 0 := by
  have brief : request.ShortMessage := by
    intro stops
    rw [stops] at asks
    exact absurd asks (by decide)
  obtain ⟨sent, sends, top, -, read⟩ := @Request.radiussend_items request config bigEndian
    stack passStack brief
  obtain ⟨value, masked, length, reveals⟩ := @userPassword_reveals config request.auth
    request.pass.bytes passStack request.pass.cString_short
  rw [stored, PassField.cString_store field free short] at length reveals
  refine ⟨sent, value, (if request.hasSession then
    request.sessionItems (request.framed bigEndian) else []) ++ [⟨4, be32 request.bindAddress⟩],
    sends, top, ?_, length, ?_⟩
  · rw [read, Request.passwordValue, masked]
    unfold Request.items
    simp [asks, pap]
  · rw [reveals, length]

def PassField.clear : PassField where
  bytes := List.replicate 129 0
  size := by simp [passSize]
  ended := rfl

/-- User "u" in session 1. -/
def userSession : SessionFields where
  user := [117]
  called := []
  calling := []
  uniqueId := 0
  opened := 0
  cin := 0
  cout := 0
  pin := 0
  pout := 0
  cinWrap := 0
  coutWrap := 0
  class' := []
  throttleIn := 0
  throttleOut := 0
  ip := 0
  route := []
  sessionTimeout := 0
  idleTimeout := 0
  user_short := by decide
  called_short := by decide
  calling_short := by decide
  class_short := by decide
  route_few := by decide

/-- An authentication with the password "pw". -/
def userRequest : Request where
  state := .auth
  id := 1
  auth := List.replicate 16 7
  pass := PassField.clear.store [112, 119]
  pppId := 1
  chap := false
  termCause := 0
  termMsg := none
  s := 1
  session := userSession
  time := 0
  bindAddress := 0
  autothrottle := false
  sends := ⟨nofun, nofun, nofun⟩
  auth_size := rfl

/-- On a host with the byte order of the network. -/
theorem request_delivers_network :
    userRequest.Delivers lastByteConfig true (fun _ => 0) fun _ => 0 :=
  (request_delivers_iff userRequest lastByteConfig true (fun _ => 0) (fun _ => 0)
    (show (1 : UInt16) ≠ 0 by decide)).mpr ⟨rfl, nofun, nofun⟩

/-- On a host with the low byte first there is no Framed-Protocol. -/
theorem request_unframed : ¬ ∀ (request : Request) (config : Config) (bigEndian : Bool)
    (stack passStack : Memory), request.hasSession →
    request.Delivers config bigEndian stack passStack := by
  intro always
  have session : userRequest.hasSession := show (1 : UInt16) ≠ 0 by decide
  have delivers := always userRequest lastByteConfig false (fun _ => 0) (fun _ => 0) session
  exact absurd (Request.framed_of_delivers session delivers).1 (by decide)

/-- The password "pw". -/
theorem request_password_two :
    ∃ sent value behind,
      userRequest.radiussend lastByteConfig false (fun _ => 0) (fun _ => 0) = some sent ∧
      sent.top ≤ 4096 ∧
      Tlv.parse (sent.bytes.drop headerSize) =
        some (userRequest.userItems ++ ⟨2, value⟩ :: behind) ∧
      value.length = 16 * (([112, 119].length + 15) / 16) ∧
      (hidingChain lastByteConfig).reveal (lastByteConfig.md5 (lastByteConfig.radiussecret ++
        userRequest.auth)) value =
        [112, 119] ++ List.replicate (value.length - [112, 119].length) 0 :=
  request_password userRequest lastByteConfig false (fun _ => 0) (fun _ => 0) PassField.clear
    [112, 119] (by decide) (by decide) rfl rfl rfl

end L2tpns.Radius
