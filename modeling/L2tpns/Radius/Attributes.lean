import L2tpns.Radius.Request

/-! # The attributes of a request

Each step of a request adds its attributes; Framed-Protocol is added where `htonl` leaves
its length as it is and the request is not for authentication only.
-/

namespace L2tpns.Radius

open Foundation
open Avp (Memory readBytes readBytes_congr readBytes_drop writeBytes)
open Server (RadiusState cString)

@[simp]
theorem text_length (string : String) : (text string).length = string.length := by
  simp [text, String.length_toList]

theorem decimal_length {n k : Nat} (positive : 0 < k) (below : n < 10 ^ k) :
    (decimal n).length ≤ k := by
  rw [decimal, List.length_map]
  exact (Nat.length_toDigits_le_iff (by decide) positive).mpr below

theorem decimalInt_length (n : Int32) : (decimalInt n.toInt).length ≤ 11 := by
  have low := n.le_toInt
  have high := n.toInt_lt
  have digits : (decimal n.toInt.natAbs).length ≤ 10 := decimal_length (by decide) (by omega)
  rw [decimalInt, List.length_append]
  split
  · simp only [List.length_singleton]
    omega
  · simp only [List.length_nil]
    omega

theorem hex8_length (n : UInt32) : (hex8 n).length = 8 := by
  simp [hex8]

theorem fmtaddr_length (ip : UInt32) : (fmtaddr ip).length ≤ 15 := by
  have bound := ip.toNat_lt
  have first : (decimal (ip.toNat / 2 ^ 24)).length ≤ 3 := decimal_length (by decide) (by omega)
  have second : (decimal (ip.toNat / 2 ^ 16 % 2 ^ 8)).length ≤ 3 :=
    decimal_length (by decide) (by omega)
  have third : (decimal (ip.toNat / 2 ^ 8 % 2 ^ 8)).length ≤ 3 :=
    decimal_length (by decide) (by omega)
  have fourth : (decimal (ip.toNat % 2 ^ 8)).length ≤ 3 := decimal_length (by decide) (by omega)
  simp only [fmtaddr, List.length_append, List.length_singleton]
  omega

namespace Request

variable (request : Request)

theorem policy_length (i : Nat) (one : i < 10) (direction : String) (rate : UInt16) :
    (policy i direction rate).length ≤ direction.length + 44 := by
  have number : (decimal i).length ≤ 1 := decimal_length (by decide) (by omega)
  have bound := rate.toNat_lt
  have value : (decimal rate.toNat).length ≤ 5 := decimal_length (by decide) (by omega)
  simp only [policy, List.length_append, text_length]
  change 21 + _ + 16 + _ + 1 + _ ≤ _
  omega

theorem routeText_length (route : Route) : (request.routeText route).length ≤ 45 := by
  have destination := fmtaddr_length route.ip
  have gateway := fmtaddr_length request.session.ip
  have prefixlen := decimalInt_length route.prefixlen
  simp only [routeText, List.length_append, text_length]
  change _ + 1 + _ + 1 + _ + 2 ≤ _
  omega

/-- The reason of a Stop record fits into its attribute. -/
def ShortMessage : Prop :=
  request.state = .stop → request.termCause ≠ 0 →
    ∀ message ∈ request.termMsg, message.length ≤ 232

/-- What is written of Framed-Protocol. -/
def framed (bigEndian : Bool) : List Tlv :=
  if bigEndian = true ∧ request.state ≠ .justauth then [⟨7, be32 1⟩] else []

theorem adds_user : Adds request.putUser [⟨1, request.session.user⟩] 129 := by
  have short := request.session.user_short
  exact (Adds.putString 1 request.session.user (by omega)).mono (by omega)

theorem adds_chap : Adds request.putChap request.chapItems 37 := by
  have size := request.pass.size
  have taken : (request.pppId :: request.pass.bytes.take 16).length = 17 := by
    rw [List.length_cons, List.length_take, size]
    rfl
  have response := Adds.put 3 19 (request.pppId :: request.pass.bytes.take 16) []
    (by rw [taken]; rfl) (by simp)
  have challenge := Adds.put 60 18 request.auth [] (by rw [request.auth_size]; rfl) (by simp)
  rw [List.append_nil] at response challenge
  exact (response.then challenge).mono (by rw [taken, request.auth_size])

theorem adds_password {value : List UInt8} (short : value.length ≤ 128) :
    Adds (putPassword value) [⟨2, value⟩] 130 := by
  have adds := Adds.put 2 (UInt8.ofNat (value.length + 2)) value [] (by
    rw [UInt8.toNat_ofNat']
    omega) (by simp)
  rw [List.append_nil] at adds
  exact adds.mono (by omega)

theorem adds_counters : Adds request.putCounters request.counterItems 42 := by
  let session := request.session
  exact ((((((Adds.putNumber 42 session.cin).then (.putNumber 43 session.cout)).then
    (.putNumber 46 (request.time - session.opened))).then (.putNumber 47 session.pin)).then
    (.putNumber 48 session.pout)).then (.putNumber 52 session.cinWrap)).then
    (.putNumber 53 session.coutWrap)

theorem adds_terminate (short : ∀ message ∈ request.termMsg, message.length ≤ 232) :
    Adds request.putTerminate request.terminateItems 261 := by
  have caused := Adds.putNumber 49 request.termCause.toUInt32
  unfold putTerminate terminateItems
  cases given : request.termMsg with
  | none => exact caused.mono (by decide)
  | some message =>
      have length : (discCause message).length = message.length + 15 := by
        simp only [discCause, List.length_append, text_length]
        exact Nat.add_comm 15 _
      have fits := short message given
      exact (caused.then (.putAvpair (discCause message) (by omega))).mono (by omega)

theorem adds_throttle : Adds request.pluginRadiusAccount request.throttleItems 116 := by
  let session := request.session
  have inbound : (policy 1 "input" session.throttleIn).length ≤ 49 :=
    policy_length 1 (by decide) "input" _
  have outbound (i : Nat) (one : i < 10) :
      (policy i "output" session.throttleOut).length ≤ 50 := policy_length i one "output" _
  have small : (if session.throttleIn ≠ 0 then 2 else 1) < 10 := by split <;> decide
  have length := outbound _ small
  have slower := (Adds.putAvpair (policy 1 "input" session.throttleIn) (by omega)).mono
    (show _ ≤ 58 by omega)
  have faster := (Adds.putAvpair (policy (if session.throttleIn ≠ 0 then 2 else 1) "output"
    session.throttleOut) (by omega)).mono (show _ ≤ 58 by omega)
  exact (Adds.putIf fun _ : session.throttleIn ≠ 0 => slower).then
    (.putIf fun _ : session.throttleOut ≠ 0 => faster)

theorem adds_records (short : request.ShortMessage) :
    Adds request.putRecords request.recordItems 567 := by
  let session := request.session
  have named : Adds (fun writer => writer.putString 44 (hex8 session.uniqueId ++
      hex8 session.opened)) [⟨44, hex8 session.uniqueId ++ hex8 session.opened⟩] 18 := by
    have length : (hex8 session.uniqueId ++ hex8 session.opened).length = 16 := by
      rw [List.length_append, hex8_length, hex8_length]
    exact (Adds.putString 44 _ (by omega)).mono (by omega)
  have classed : Adds (Writer.putIf (session.class' ≠ []) fun writer =>
      writer.put 25 (UInt8.ofNat (session.class'.length + 2)) session.class')
      (if session.class' ≠ [] then [⟨25, session.class'⟩] else []) 130 := by
    have few := session.class_short
    refine .putIf fun _ => ?_
    have adds := Adds.put 25 (UInt8.ofNat (session.class'.length + 2)) session.class' [] (by
      rw [UInt8.toNat_ofNat']
      omega) (by simp)
    rw [List.append_nil] at adds
    exact adds.mono (by omega)
  have counted : Adds (fun writer =>
      if request.state = .start then writer.putNumber 41 (request.time - session.opened)
      else (request.putCounters writer).putIf
        (request.state = .stop ∧ request.termCause ≠ 0) request.putTerminate)
      (if request.state = .start then [⟨41, be32 (request.time - session.opened)⟩]
      else request.counterItems ++
        if request.state = .stop ∧ request.termCause ≠ 0 then request.terminateItems else [])
      303 := by
    by_cases start : request.state = .start
    · simp only [start, ↓reduceIte]
      exact (Adds.putNumber 41 _).mono (by decide)
    · simp only [start, ↓reduceIte]
      exact request.adds_counters.then (.putIf fun stops =>
        request.adds_terminate (short stops.1 stops.2))
  exact ((named.then counted).then classed).then (.putIf fun _ => request.adds_throttle)

theorem adds_routes : Adds request.putRoutes request.routeItems 470 := by
  have few : (request.session.route.takeWhile (·.ip ≠ 0)).length ≤ 10 :=
    Nat.le_trans (List.takeWhile_sublist _).length_le request.session.route_few
  have each (route : Route) : Adds (fun writer => writer.putString 22 (request.routeText route))
      [⟨22, request.routeText route⟩] 47 := by
    have length := request.routeText_length route
    exact (Adds.putString 22 _ (by omega)).mono (by omega)
  exact (Adds.each _ (fun route writer => writer.putString 22 (request.routeText route)) _
    fun route _ => each route).mono (by omega)

theorem adds_framedProtocol (bigEndian : Bool) :
    Adds (request.putFramedProtocol bigEndian) (request.framed bigEndian) 6 := by
  by_cases just : request.state = .justauth
  · have zero : UInt8.ofNat (htonl bigEndian 0) = 0 := by cases bigEndian <;> rfl
    unfold putFramedProtocol framed
    simp only [just, ↓reduceIte, zero, ne_eq, not_true_eq_false, and_false]
    exact .overwritten 7 (be32 0) (by simp) 6
  · unfold putFramedProtocol framed
    simp only [just, ↓reduceIte, ne_eq, not_false_eq_true, and_true]
    cases bigEndian with
    | false => exact .overwritten 7 (be32 1) (by simp) 6
    | true =>
        have adds := Adds.put 7 6 (be32 1) [] rfl (by simp)
        rw [List.append_nil] at adds
        exact adds

theorem adds_session (bigEndian : Bool) :
    Adds (request.putSession bigEndian) (request.sessionItems (request.framed bigEndian))
      702 := by
  let session := request.session
  have called := session.called_short
  have calling := session.calling_short
  have ported := ((Adds.putNumber 5 request.s.toUInt32).then
    (.putNumber 6 (if request.state = .justauth then 8 else 2))).then
    (request.adds_framedProtocol bigEndian)
  have addressed := ported.then
    (.putIf fun _ : session.ip ≠ 0 => .putNumber 8 session.ip)
  have timed := ((addressed.then request.adds_routes).then
    (.putIf fun _ : session.sessionTimeout ≠ 0 =>
      .putNumber 27 session.sessionTimeout)).then
    (.putIf fun _ : session.idleTimeout ≠ 0 => .putNumber 28 session.idleTimeout)
  exact ((timed.then (.putIf fun _ : session.called ≠ [] =>
    (Adds.putString 30 session.called (by omega)).mono (Nat.add_le_add_right
      (Nat.le_of_lt_succ called) 2))).then (.putIf fun _ : session.calling ≠ [] =>
    (Adds.putString 31 session.calling (by omega)).mono (Nat.add_le_add_right
      (Nat.le_of_lt_succ calling) 2))).mono (by decide)

theorem adds_all (bigEndian : Bool) {value : List UInt8} (short : request.ShortMessage)
    (few : value.length ≤ 128) :
    Adds (request.putAll bigEndian value) (request.items (request.framed bigEndian) value)
      1410 := by
  have asked : Adds (fun writer =>
      if request.state.isAuth then
        if request.chap then request.putChap writer else putPassword value writer
      else (writer.putNumber 40 request.statusType).putIf request.hasSession request.putRecords)
      (if request.state.isAuth then if request.chap then request.chapItems else [⟨2, value⟩]
      else
        ⟨40, be32 request.statusType⟩ ::
          if request.hasSession then request.recordItems else []) 573 := by
    by_cases auth : request.state.isAuth
    · simp only [auth, ↓reduceIte]
      by_cases chap : request.chap
      · simp only [chap, ↓reduceIte]
        exact request.adds_chap.mono (by decide)
      · simp only [chap]
        exact (adds_password few).mono (by decide)
    · simp only [auth]
      exact (Adds.putNumber 40 _).then (.putIf fun _ => request.adds_records short)
  exact (((Adds.putIf fun _ : request.hasSession => request.adds_user).then asked).then
    (.putIf fun _ : request.hasSession => request.adds_session bigEndian)).then
    (.putNumber 4 request.bindAddress)

end Request

def lengthField (bytes : List UInt8) : Nat :=
  (bytes.getD 2 0).toNat * 2 ^ 8 + (bytes.getD 3 0).toNat

namespace Request

variable {request : Request} {config : Config} {writer : Writer} {items : List Tlv}

/-- The fields that are set last are in the header. -/
theorem finish_delivers (holds : writer.Holds items) (small : (Tlv.encodeAll items).length < 4000) :
    lengthField (request.finish config writer).bytes =
        (request.finish config writer).bytes.length ∧
      (request.finish config writer).bytes.drop headerSize = Tlv.encodeAll items := by
  have pointer := holds.pointer
  simp only [headerSize] at pointer
  obtain ⟨signed, finished, behind, sized⟩ : ∃ signed : Memory,
      (request.finish config writer).bytes = readBytes signed 0 writer.p ∧
      (∀ k, headerSize ≤ k → signed k = writer.memory k) ∧
      (signed 2).toNat * 2 ^ 8 + (signed 3).toNat = writer.p := by
    refine ⟨_, rfl, fun k body => ?_, ?_⟩
    · simp only [headerSize] at body
      have length (digest : Fin 16 → UInt8) : (List.ofFn digest).length = 16 := by simp
      split
      · exact Avp.writeBytes_beyond _ (by simp; omega)
      · rw [Avp.writeBytes_beyond _ (by rw [length]; omega)]
        exact Avp.writeBytes_beyond _ (by simp; omega)
    · have length : (writeBytes writer.memory 2 (be16 writer.p) 2).toNat * 2 ^ 8 +
          (writeBytes writer.memory 2 (be16 writer.p) 3).toNat = writer.p := by
        simp only [writeBytes, be16]
        simp
        omega
      split
      · exact length
      · simp only [writeBytes] at length ⊢
        simpa using length
  rw [finished, readBytes_drop, Avp.readBytes_length]
  refine ⟨?_, ?_⟩
  · rw [← sized]
    simp only [lengthField, readBytes, List.getD_eq_getElem?_getD]
    rw [List.getElem?_eq_getElem (by simp; omega), List.getElem?_eq_getElem (by simp; omega)]
    simp
  · rw [← holds.area, show writer.p - headerSize = (Tlv.encodeAll items).length by
      simp only [headerSize]; omega]
    exact readBytes_congr fun k _ => behind _ (by simp only [headerSize]; omega)

end Request

end L2tpns.Radius
