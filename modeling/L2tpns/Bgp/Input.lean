import L2tpns.Bgp.Peer
import L2tpns.Foundation.WhileLoop

/-! # Input from a BGP peer

The loop of `bgp_process` takes messages from the input buffer as long as it holds a header
and no response is pending. It goes on for ever at a message of which only a part was
received, or whose length field is 0. It ends, and takes a whole message each time or
stops, exactly if every message it comes to is framed (`L2tpns.Bgp.inputLoop_ends_iff`).
-/

namespace L2tpns.Bgp

open Foundation

def bgpMsgOpen : Nat := 1
def bgpMsgUpdate : Nat := 2
def bgpMsgNotification : Nat := 3
def bgpMsgKeepalive : Nat := 4

def bgpErrUnspec : Nat := 0
def bgpErrHeader : Nat := 1
def bgpErrHdrNotSync : Nat := 1
def bgpErrHdrBadLen : Nat := 2
def bgpErrOpen : Nat := 2
def bgpErrOpnVersion : Nat := 1
def bgpErrOpnBadAs : Nat := 2
def bgpErrOpnUnsupParam : Nat := 4
def bgpErrOpnHoldTime : Nat := 6
def bgpErrOpnUnsupCap : Nat := 7
def bgpErrHoldTimerExp : Nat := 4
def bgpErrFsm : Nat := 5
def bgpErrCease : Nat := 6

namespace Inbuf

variable (inbuf : Inbuf)

/-- A number of two bytes in network order. -/
def short (bytes : Nat → UInt8) (i : Nat) : Nat :=
  (bytes i).toNat * 2 ^ 8 + (bytes (i + 1)).toNat

/-- The length field of the header. -/
def len : Nat := short inbuf.bytes 16

def type : Nat := (inbuf.bytes 18).toNat

/-- All bytes of the marker are set. -/
def marked : Bool := (List.range 16).all fun i => inbuf.bytes i = 0xff

/-- The rest after a message of `len` bytes is moved to the front. -/
def consume (len : Nat) : Inbuf :=
  if len < inbuf.done then
    ⟨fun i => if i < inbuf.done - len then inbuf.bytes (i + len) else inbuf.bytes i,
      inbuf.done - len⟩
  else ⟨Function.update (Function.update inbuf.bytes 16 0) 17 0, 0⟩

end Inbuf

/-- The copy of an OPEN that is parsed: what was not received is what `stack` holds. -/
def openData (bytes stack : Nat → UInt8) (len : Nat) : Nat → UInt8 :=
  fun i => if i < len - bgpHeaderSize then bytes (bgpHeaderSize + i) else stack i

/-- Look for the multiprotocol capability from `offset` on, among `size` bytes of
capabilities at `base`; `none` if the list is malformed. -/
def scanCapabilities (data : Nat → UInt8) (base size : Nat) (handling : MpHandling)
    (offset : Nat) : MpHandling × Bool :=
  if offset < size then
    let at_ := base + offset
    let len := (data (at_ + 1)).toNat
    if size - offset < 2 ∨ size - offset - 2 < len then (handling, false)
    else if (data at_).toNat ≠ 1 ∧ len ≠ 4 then
      scanCapabilities data base size handling (offset + (2 + len))
    else if Inbuf.short data (at_ + 2) ≠ 2 ∧ (data (at_ + 5)).toNat ≠ 1 then
      scanCapabilities data base size handling (offset + (2 + len))
    else scanCapabilities data base size .handleIpv6Routes (offset + (2 + len))
  else (handling, true)
termination_by size - offset

/-- The optional parameters of an OPEN from `offset` on: how the peer handles IPv6 routes,
and the subcode of the error that was found. -/
def scanParams (data : Nat → UInt8) (optLen : Nat) (handling : MpHandling) (offset : Nat) :
    MpHandling × Option Nat :=
  if offset < optLen then
    let at_ := bgpDataOpenSize + offset
    let len := (data (at_ + 1)).toNat
    if optLen - offset < 2 ∨ optLen - offset - 2 < len then (handling, some bgpErrUnspec)
    else if (data at_).toNat ≠ 2 then (handling, some bgpErrOpnUnsupParam)
    else
      let scanned := scanCapabilities data (at_ + 2) len handling 0
      if scanned.2 then scanParams data optLen scanned.1 (offset + (2 + len))
      else (scanned.1, some bgpErrUnspec)
  else (handling, none)
termination_by optLen - offset

/-- How a message is handled: the copy of the message goes wrong, the handler returns, or the
message is taken from the buffer. -/
inductive Handled where
  | undefined
  | returns (peer : Peer)
  | takes (peer : Peer)

/-- A message that ends the connection. -/
def refuse (server : Server) (peer : Peer) (code subcode : Nat) (result : WriteResult) : Handled :=
  .returns (bgpSendNotification server peer code subcode result).1

/-- The timers and the optional parameters of an OPEN. -/
def negotiate (server : Server) (peer : Peer) (data : Nat → UInt8) (result : WriteResult) :
    Handled :=
  let lowest := min (Inbuf.short data 3) peer.hold
  let timed :=
    { peer with
      hold := lowest
      keepalive := if lowest < peer.keepalive * 3 then lowest / 3 else peer.keepalive }
  let scanned := scanParams data (data 9).toNat peer.mpHandling 0
  match scanned.2 with
  | some subcode => refuse server { timed with mpHandling := scanned.1 } bgpErrOpen subcode result
  | none =>
      let handling :=
        if scanned.1 = .handleIpv6Routes then .handleIpv6Routes else .doesntHandleIpv6Routes
      .takes (bgpSendKeepalive server { timed with mpHandling := handling } result).1

/-- The case of an OPEN. -/
def handleOpen (server : Server) (peer : Peer) (stack : Nat → UInt8) (result : WriteResult) :
    Handled :=
  let len := peer.inbuf.len
  if ¬ peer.inbuf.marked then refuse server peer bgpErrHeader bgpErrHdrNotSync result
  else if peer.state ≠ .openSent then refuse server peer bgpErrFsm 0 result
  -- the number of bytes to copy is negative
  else if len < bgpHeaderSize then .undefined
  else
    let data := openData peer.inbuf.bytes stack len
    if (data 0).toNat ≠ bgpVersion then refuse server peer bgpErrOpen bgpErrOpnVersion result
    else if Inbuf.short data 1 ≠ peer.as then refuse server peer bgpErrOpen bgpErrOpnBadAs result
    else if Inbuf.short data 3 < 3 then refuse server peer bgpErrOpen bgpErrOpnHoldTime result
    else negotiate server peer data result

/-- The case of a KEEPALIVE. -/
def handleKeepalive (server : Server) (peer : Peer) : Peer :=
  if peer.state = .openConfirm then
    { peer with
      state := .established
      nextState := .established
      stateTime := server.timeNow
      keepaliveTime := server.timeNow + peer.keepalive
      updateRoutes := true
      retryCount := 0
      retryTime := 0 }
  else peer

/-- The case of a NOTIFICATION. -/
def handleNotification (server : Server) (peer : Peer) : Handled :=
  let code := (peer.inbuf.bytes bgpHeaderSize).toNat
  let subcode := (peer.inbuf.bytes (bgpHeaderSize + 1)).toNat
  if peer.inbuf.len ≤ bgpHeaderSize then .takes peer
  else if code = bgpErrCease then .returns (bgpSetRetry server peer)
  else if code = bgpErrOpen ∧ subcode = bgpErrOpnUnsupParam then
    .returns (bgpSetRetry server { peer with mpHandling := .doesntHandleIpv6Routes })
  else if code = bgpErrOpen ∧ subcode = bgpErrOpnUnsupCap then
    .takes { peer with mpHandling := .doesntHandleIpv6Routes }
  else .takes peer

/-- The cases of a message that was received as a whole. -/
def handleMessage (server : Server) (peer : Peer) (stack : Nat → UInt8) (result : WriteResult) :
    Handled :=
  if peer.inbuf.type = bgpMsgOpen then handleOpen server peer stack result
  else if peer.inbuf.type = bgpMsgKeepalive then .takes (handleKeepalive server peer)
  else if peer.inbuf.type = bgpMsgNotification then handleNotification server peer
  else .takes peer

/-- Process the message at the front of the buffer; `none` if that has no defined result. -/
def bgpHandleInput (server : Server) (peer : Peer) (stack : Nat → UInt8) (result : WriteResult) :
    Option Peer :=
  let len := peer.inbuf.len
  if bgpMaxPacketSize < len then
    some (bgpSendNotification server peer bgpErrHeader bgpErrHdrBadLen result).1
  else if peer.inbuf.done < len then some peer
  else
    match handleMessage server peer stack result with
    | .undefined => none
    | .returns handled => some handled
    | .takes handled =>
        some { handled with
          expireTime := server.timeNow + handled.hold
          inbuf := handled.inbuf.consume len }

/-- There is a header in the input buffer, and no response is pending. -/
def Peer.HasInput (peer : Peer) : Prop :=
  bgpHeaderSize ≤ peer.inbuf.done ∧ peer.outbuf.len = 0

instance (peer : Peer) : Decidable peer.HasInput := inferInstanceAs (Decidable (_ ∧ _))

/-- What the iterations find in memory, and what their writes return. -/
structure Surroundings where
  server : Server
  stack : Nat → Nat → UInt8
  result : Nat → WriteResult

/-- A peer after a number of iterations. -/
structure InputState where
  peer : Peer
  turn : Nat

/-- The loop over the input buffer; it is left with no peer if a message has no defined
result. -/
def inputLoop (around : Surroundings) : WhileLoop InputState (Option Peer) where
  iterate state :=
    if state.peer.HasInput then
      match bgpHandleInput around.server state.peer (around.stack state.turn)
          (around.result state.turn) with
      | some handled => .inr ⟨handled, state.turn + 1⟩
      | none => .inl none
    else .inl (some state.peer)

/-- The loop ends, and every iteration takes at least a header from the buffer or is the
last. -/
structure InputEnds (around : Surroundings) (peer : Peer) : Prop where
  ends : ∃ after, (inputLoop around).Returns ⟨peer, 0⟩ (some after)
  progress : ∀ state next, (inputLoop around).Reaches ⟨peer, 0⟩ state →
    (inputLoop around).Continues state next →
      next.peer.inbuf.done + bgpHeaderSize ≤ state.peer.inbuf.done ∨ ¬ next.peer.HasInput

/-- The message at the front of the buffer is longer than any, or it is there as a whole. One
that is shorter than its header is an OPEN that is refused, or next to the last in the
buffer. -/
def Peer.Framed (peer : Peer) : Prop :=
  bgpMaxPacketSize < peer.inbuf.len ∨
    peer.inbuf.len ≤ peer.inbuf.done ∧
      (bgpHeaderSize ≤ peer.inbuf.len ∨
        if peer.inbuf.type = bgpMsgOpen then peer.inbuf.marked = false ∨ peer.state ≠ .openSent
        else peer.inbuf.done < peer.inbuf.len + bgpHeaderSize)

variable {server : Server} {peer : Peer} {stack : Nat → UInt8} {result : WriteResult}

theorem bgpClear_done : (bgpClear server peer).inbuf.done = 0 := by
  rw [bgpClear]
  split <;> rfl

theorem bgpSetRetry_done : (bgpSetRetry server peer).inbuf.done = 0 := by
  rw [bgpSetRetry]
  split <;> exact bgpClear_done

theorem bgpWrite_inbuf (server : Server) (peer : Peer) (result : WriteResult) :
    (bgpWrite server peer result).1.inbuf = peer.inbuf ∨
      (bgpWrite server peer result).1.inbuf.done = 0 := by
  cases result with
  | again => exact .inl rfl
  | failed => exact .inr bgpSetRetry_done
  | wrote count =>
      rw [bgpWrite]
      dsimp only
      by_cases part : count < peer.outbuf.len
      · rw [if_pos part]
        exact .inl rfl
      rw [if_neg part]
      by_cases stays : peer.state = peer.nextState
      · rw [if_pos stays]
        refine .inl ?_
        dsimp only
        split <;> rfl
      rw [if_neg stays]
      by_cases drops : peer.nextState = .disabled ∨ peer.nextState = .idle
      · rw [if_pos drops]
        exact .inr bgpClear_done
      rw [if_neg drops]
      refine .inl ?_
      dsimp only
      split <;> rfl

theorem bgpSendNotification_done (code subcode : Nat) :
    (bgpSendNotification server peer code subcode result).1.inbuf.done = 0 := by
  rw [bgpSendNotification]
  obtain same | dropped := bgpWrite_inbuf server { peer with
    outbuf := ⟨.notification code subcode, bgpHeaderSize + 2, 0⟩
    nextState := if code = 6 then .disabled else .idle
    inbuf := ⟨Function.update (Function.update peer.inbuf.bytes 16 0) 17 0, 0⟩ } result
  · rw [same]
  · exact dropped

theorem Inbuf.consume_done (inbuf : Inbuf) (len : Nat) :
    (inbuf.consume len).done = inbuf.done - len := by
  rw [Inbuf.consume]
  split
  · rfl
  · dsimp only
    omega

/-- How the cases treat the input buffer, and the output when a message is taken that is
shorter than its header. -/
inductive Handled.Tidy (peer : Peer) : Handled → Prop where
  | returns {handled : Peer} (dropped : handled.inbuf.done = 0) : Tidy peer (.returns handled)
  | takes {handled : Peer} (input : handled.inbuf = peer.inbuf ∨ handled.inbuf.done = 0) :
      Tidy peer (.takes handled)

theorem refuse_tidy (refused : Peer) (code subcode : Nat) :
    Handled.Tidy peer (refuse server refused code subcode result) :=
  .returns (bgpSendNotification_done code subcode)

theorem negotiate_tidy (data : Nat → UInt8) :
    Handled.Tidy peer (negotiate server peer data result) := by
  simp only [negotiate]
  split
  · exact refuse_tidy ..
  · exact .takes (bgpWrite_inbuf ..)

theorem handleOpen_refused (refused : peer.inbuf.marked = false ∨ peer.state ≠ .openSent) :
    ∃ code subcode,
      handleOpen server peer stack result = refuse server peer code subcode result := by
  rw [handleOpen]
  dsimp only
  by_cases unmarked : peer.inbuf.marked = false
  · rw [if_pos (by rw [unmarked]; exact nofun)]
    exact ⟨_, _, rfl⟩
  · rw [if_neg (not_not.mpr (Bool.eq_true_of_not_eq_false unmarked)),
      if_pos (refused.resolve_left unmarked)]
    exact ⟨_, _, rfl⟩

theorem handleOpen_tidy (whole : bgpHeaderSize ≤ peer.inbuf.len) :
    Handled.Tidy peer (handleOpen server peer stack result) := by
  rw [handleOpen]
  dsimp only
  rw [if_neg (Nat.not_lt.mpr whole)]
  split_ifs
  · exact refuse_tidy ..
  · exact refuse_tidy ..
  · exact refuse_tidy ..
  · exact refuse_tidy ..
  · exact negotiate_tidy _
  · exact refuse_tidy ..

theorem handleNotification_tidy : Handled.Tidy peer (handleNotification server peer) := by
  simp only [handleNotification]
  split_ifs
  · exact .takes (.inl rfl)
  · exact .returns bgpSetRetry_done
  · exact .returns bgpSetRetry_done
  · exact .takes (.inl rfl)
  · exact .takes (.inl rfl)

theorem handleKeepalive_inbuf : (handleKeepalive server peer).inbuf = peer.inbuf := by
  rw [handleKeepalive]
  split <;> rfl

theorem handleMessage_tidy (whole : bgpHeaderSize ≤ peer.inbuf.len ∨
    peer.inbuf.type ≠ bgpMsgOpen) :
    Handled.Tidy peer (handleMessage server peer stack result) := by
  rw [handleMessage]
  split_ifs with isOpen
  · exact handleOpen_tidy (whole.resolve_right fun other => other isOpen)
  · exact .takes (.inl handleKeepalive_inbuf)
  · exact handleNotification_tidy
  · exact .takes (.inl rfl)

/-- The buffer after a message of `len` bytes was handled. -/
def Handled.after (server : Server) (len : Nat) : Handled → Option Peer
  | .undefined => none
  | .returns handled => some handled
  | .takes handled =>
      some { handled with
        expireTime := server.timeNow + handled.hold
        inbuf := handled.inbuf.consume len }

theorem bgpHandleInput_received (fits : peer.inbuf.len ≤ bgpMaxPacketSize)
    (received : peer.inbuf.len ≤ peer.inbuf.done) :
    bgpHandleInput server peer stack result =
      (handleMessage server peer stack result).after server peer.inbuf.len := by
  rw [bgpHandleInput]
  rw [if_neg (Nat.not_lt.mpr fits), if_neg (Nat.not_lt.mpr received)]
  cases handleMessage server peer stack result with
  | undefined | returns handled | takes handled => rfl

/-- A message that is tidily handled is taken, or it is the last. -/
theorem Handled.Tidy.after {handled : Handled} (tidy : Handled.Tidy peer handled)
    (received : peer.inbuf.len ≤ peer.inbuf.done)
    (long : bgpHeaderSize ≤ peer.inbuf.len ∨
      peer.inbuf.done < peer.inbuf.len + bgpHeaderSize) :
    ∃ after, handled.after server peer.inbuf.len = some after ∧
      (after.inbuf.done + bgpHeaderSize ≤ peer.inbuf.done ∨
        after.inbuf.done < bgpHeaderSize) := by
  have size : bgpHeaderSize = 19 := rfl
  cases tidy with
  | returns dropped =>
      refine ⟨_, rfl, .inr ?_⟩
      rw [dropped]
      exact Nat.succ_pos 18
  | @takes taken input =>
      refine ⟨_, rfl, ?_⟩
      rw [Inbuf.consume_done]
      rcases input with same | dropped
      · rw [same]
        omega
      · rw [dropped]
        omega

theorem bgpHandleInput_framed (framed : peer.Framed) :
    ∃ after, bgpHandleInput server peer stack result = some after ∧
      (after.inbuf.done + bgpHeaderSize ≤ peer.inbuf.done ∨ after.inbuf.done < bgpHeaderSize) := by
  by_cases oversize : bgpMaxPacketSize < peer.inbuf.len
  · rw [bgpHandleInput]
    rw [if_pos oversize]
    refine ⟨_, rfl, .inr ?_⟩
    rw [bgpSendNotification_done]
    exact Nat.succ_pos 18
  obtain ⟨received, whole⟩ := framed.resolve_left oversize
  rw [bgpHandleInput_received (Nat.not_lt.mp oversize) received]
  rcases whole with long | last
  · exact (handleMessage_tidy (.inl long)).after received (.inl long)
  by_cases isOpen : peer.inbuf.type = bgpMsgOpen
  · rw [if_pos isOpen] at last
    obtain ⟨code, subcode, refused⟩ := @handleOpen_refused server peer stack result last
    rw [handleMessage, if_pos isOpen, refused]
    refine ⟨_, rfl, .inr ?_⟩
    rw [bgpSendNotification_done]
    exact Nat.succ_pos 18
  · rw [if_neg isOpen] at last
    exact (handleMessage_tidy (.inr isOpen)).after received (.inr last)

theorem bgpHandleInput_incomplete (fits : peer.inbuf.len ≤ bgpMaxPacketSize)
    (missing : peer.inbuf.done < peer.inbuf.len) :
    bgpHandleInput server peer stack result = some peer := by
  rw [bgpHandleInput]
  rw [if_neg (Nat.not_lt.mpr fits), if_pos missing]

theorem bgpHandleInput_negative (received : peer.inbuf.len ≤ peer.inbuf.done)
    (short : peer.inbuf.len < bgpHeaderSize) (isOpen : peer.inbuf.type = bgpMsgOpen)
    (marked : peer.inbuf.marked = true) (expected : peer.state = .openSent) :
    bgpHandleInput server peer stack result = none := by
  have size : bgpHeaderSize = 19 := rfl
  have most : bgpMaxPacketSize = 4096 := rfl
  rw [bgpHandleInput_received (by omega) received, handleMessage, if_pos isOpen, handleOpen]
  dsimp only
  rw [if_neg (not_not.mpr marked), if_neg (not_not.mpr expected), if_pos short]
  rfl

theorem bgpHandleInput_short (input : peer.HasInput) (short : peer.inbuf.len < bgpHeaderSize)
    (other : peer.inbuf.type ≠ bgpMsgOpen)
    (more : peer.inbuf.len + bgpHeaderSize ≤ peer.inbuf.done) :
    ∃ after, bgpHandleInput server peer stack result = some after ∧ after.HasInput ∧
      peer.inbuf.done < after.inbuf.done + bgpHeaderSize := by
  have size : bgpHeaderSize = 19 := rfl
  have most : bgpMaxPacketSize = 4096 := rfl
  rw [bgpHandleInput_received (by omega) (by omega), handleMessage, if_neg other]
  have left {taken : Peer} (inbuf : taken.inbuf = peer.inbuf)
      (outbuf : taken.outbuf = peer.outbuf) :
      ∃ after, (Handled.takes taken).after server peer.inbuf.len = some after ∧ after.HasInput ∧
        peer.inbuf.done < after.inbuf.done + bgpHeaderSize := by
    refine ⟨_, rfl, ⟨?_, ?_⟩, ?_⟩
    · dsimp only
      rw [Inbuf.consume_done, inbuf]
      omega
    · exact (congrArg Outbuf.len outbuf).trans input.2
    · dsimp only
      rw [Inbuf.consume_done, inbuf]
      omega
  split_ifs
  · refine left handleKeepalive_inbuf ?_
    rw [handleKeepalive]
    split <;> rfl
  · rw [handleNotification, if_pos (Nat.le_of_lt short)]
    exact left rfl rfl
  · exact left rfl rfl

variable {around : Surroundings} {state next : InputState}

theorem inputLoop_continues (input : state.peer.HasInput) {after : Peer}
    (handled : bgpHandleInput around.server state.peer (around.stack state.turn)
      (around.result state.turn) = some after) :
    (inputLoop around).Continues state ⟨after, state.turn + 1⟩ := by
  simp only [WhileLoop.Continues, inputLoop]
  rw [if_pos input, handled]

theorem inputLoop_inv (moves : (inputLoop around).Continues state next) :
    state.peer.HasInput ∧ bgpHandleInput around.server state.peer (around.stack state.turn)
      (around.result state.turn) = some next.peer := by
  simp only [WhileLoop.Continues, inputLoop] at moves
  by_cases input : state.peer.HasInput
  · rw [if_pos input] at moves
    refine ⟨input, ?_⟩
    cases handled : bgpHandleInput around.server state.peer (around.stack state.turn)
        (around.result state.turn) with
    | none =>
        rw [handled] at moves
        exact nomatch moves
    | some after =>
        rw [handled] at moves
        rw [← Sum.inr.inj moves]
  · rw [if_neg input] at moves
    exact nomatch moves

/-- Every message that the loop comes to is framed. -/
def MeetsFramed (around : Surroundings) (peer : Peer) : Prop :=
  ∀ state, (inputLoop around).Reaches ⟨peer, 0⟩ state → state.peer.HasInput → state.peer.Framed

theorem inputEnds_of_framed (framed : MeetsFramed around peer) : InputEnds around peer := by
  have progress : ∀ state next, (inputLoop around).Reaches ⟨peer, 0⟩ state →
      (inputLoop around).Continues state next →
        next.peer.inbuf.done + bgpHeaderSize ≤ state.peer.inbuf.done ∨
          next.peer.inbuf.done < bgpHeaderSize := by
    intro state next reached moves
    obtain ⟨input, handled⟩ := inputLoop_inv moves
    obtain ⟨after, taken, less⟩ := bgpHandleInput_framed (framed state reached input)
    rw [handled] at taken
    rw [Option.some.inj taken]
    exact less
  refine ⟨?_, fun state next reached moves => ?_⟩
  · have decreases : ∀ here there, (inputLoop around).Reaches ⟨peer, 0⟩ here →
        (inputLoop around).Continues here there →
          there.peer.inbuf.done < here.peer.inbuf.done := by
      intro here there reached moves
      have some := (inputLoop_inv moves).1.1
      have size : bgpHeaderSize = 19 := rfl
      have less := progress here there reached moves
      omega
    obtain ⟨outcome, returns⟩ := WhileLoop.returns_of_measure
      (fun state : InputState => state.peer.inbuf.done) decreases
    obtain ⟨final, reached, left⟩ := returns.last
    simp only [inputLoop] at left
    by_cases input : final.peer.HasInput
    · obtain ⟨after, taken, _⟩ := @bgpHandleInput_framed around.server final.peer
        (around.stack final.turn) (around.result final.turn) (framed final reached input)
      rw [if_pos input, taken] at left
      exact nomatch left
    · rw [if_neg input] at left
      rw [← Sum.inl.inj left] at returns
      exact ⟨final.peer, returns⟩
  · refine (progress state next reached moves).imp_right fun short input => ?_
    exact absurd input.1 (Nat.not_le.mpr short)

/-- At a message that is not framed the loop has no result, or makes no progress. -/
theorem framed_of_inputEnds (ends : InputEnds around peer) : MeetsFramed around peer := by
  intro state reached input
  have size : bgpHeaderSize = 19 := rfl
  by_contra unframed
  have fits : state.peer.inbuf.len ≤ bgpMaxPacketSize :=
    Nat.not_lt.mp fun oversize => unframed (.inl oversize)
  by_cases received : state.peer.inbuf.len ≤ state.peer.inbuf.done
  · have short : state.peer.inbuf.len < bgpHeaderSize :=
      Nat.not_le.mp fun long => unframed (.inr ⟨received, .inl long⟩)
    by_cases isOpen : state.peer.inbuf.type = bgpMsgOpen
    · have accepted : ¬ (state.peer.inbuf.marked = false ∨ state.peer.state ≠ .openSent) := by
        intro refused
        refine unframed (.inr ⟨received, .inr ?_⟩)
        rw [if_pos isOpen]
        exact refused
      rw [not_or, not_not] at accepted
      have undefined := @bgpHandleInput_negative around.server state.peer
        (around.stack state.turn) (around.result state.turn) received short isOpen
        (Bool.eq_true_of_not_eq_false accepted.1) accepted.2
      obtain ⟨after, returns⟩ := ends.ends
      have left : (inputLoop around).iterate state = .inl none := by
        simp only [inputLoop]
        rw [if_pos input, undefined]
      exact nomatch (returns.reached reached).unique left
    · have more : state.peer.inbuf.len + bgpHeaderSize ≤ state.peer.inbuf.done := by
        refine Nat.not_lt.mp fun last => unframed (.inr ⟨received, .inr ?_⟩)
        rw [if_neg isOpen]
        exact last
      obtain ⟨after, taken, stays, little⟩ := @bgpHandleInput_short around.server state.peer
        (around.stack state.turn) (around.result state.turn) input short isOpen more
      rcases ends.progress state _ reached (inputLoop_continues input taken) with less | stops
      · dsimp only at less
        omega
      · exact stops stays
  · have same := @bgpHandleInput_incomplete around.server state.peer (around.stack state.turn)
      (around.result state.turn) fits (Nat.not_le.mp received)
    rcases ends.progress state _ reached (inputLoop_continues input same) with less | stops
    · dsimp only at less
      omega
    · exact stops input

/-- **End of the input.** Whatever the buffer holds, the state of the peer is and the writes
return, the loop ends and takes a header's size or more each time or stops, if and only if
every message that it comes to is framed. -/
theorem inputLoop_ends_iff (around : Surroundings) (peer : Peer) :
    InputEnds around peer ↔ MeetsFramed around peer :=
  ⟨framed_of_inputEnds, inputEnds_of_framed⟩

/-- A peer with an empty connection. -/
def Peer.zero : Peer where
  name := ""
  sourceAddr := 0
  as := 0
  state := .disabled
  nextState := .disabled
  stateTime := 0
  keepaliveTime := 0
  retryTime := 0
  retryCount := 0
  initKeepalive := 0
  initHold := 0
  keepalive := 0
  hold := 0
  expireTime := 0
  routing := false
  updateRoutes := false
  routes := []
  outbuf := ⟨.keepalive, 0, 0⟩
  inbuf := ⟨fun _ => 0, 0⟩
  cliFlag := .none
  pathAttrLen := 0
  pathAttrLenWithoutNexthop := 0
  mpHandling := .handlingUnknown
  updateRoutes6 := false
  routes6 := []

/-- Of an UPDATE of 23 bytes only the header has arrived. -/
def partialPeer : Peer :=
  { Peer.zero with
    state := .established
    nextState := .established
    inbuf :=
      ⟨fun i => if i < 16 then 0xff else if i = 17 then 23 else if i = 18 then 2 else 0, 19⟩ }

/-- The loop waits for the rest of the message without reading it. -/
theorem inputLoop_waits : ¬ ∃ around, InputEnds around partialPeer := by
  intro ⟨around, ends⟩
  have input : partialPeer.HasInput := ⟨Nat.le_refl 19, rfl⟩
  have same := @bgpHandleInput_incomplete around.server partialPeer (around.stack 0)
    (around.result 0) (by decide) (by decide)
  have moves := @inputLoop_continues around ⟨partialPeer, 0⟩ input _ same
  rcases ends.progress _ _ .refl moves with less | stops
  · exact absurd less (by decide)
  · exact stops input

end L2tpns.Bgp
