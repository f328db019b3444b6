import L2tpns.Bgp.Streams

/-! # Segmentation of BGP streams

As long as reads find an empty buffer, messages have arrived as a whole when they are processed
and writes take whole messages, every access is inside of the buffers, the messages are processed
in order, and the connection is like one with a message in each transfer
(`L2tpns.Bgp.streams_unsegmented`). What is kept by each step is one invariant, and the connection
with whole messages another, which follows step by step except where something is read ahead.
-/

namespace L2tpns.Bgp

open Foundation

variable {server : Server} {peer prepared after : Peer} {result : WriteResult}

variable {most count : Nat} {routes : List IpPrefix} {stack : Nat → UInt8} {action : Action}
  {bytes : List UInt8} (inbuf : Inbuf)

@[simp]
theorem Inbuf.received_length : inbuf.received.length = inbuf.done := by
  simp [Inbuf.received]

theorem Inbuf.received_getD {i : Nat} (inside : i < inbuf.done) :
    inbuf.received.getD i 0 = inbuf.bytes i := by
  simp [Inbuf.received, inside]

theorem Inbuf.received_empty {inbuf : Inbuf} (empty : inbuf.done = 0) : inbuf.received = [] := by
  simp [Inbuf.received, empty]

theorem Inbuf.received_format {inbuf : Inbuf} (header : bgpHeaderSize ≤ inbuf.done) :
    messageFormat.length inbuf.received = inbuf.len := by
  have inside : 19 ≤ inbuf.done := header
  simp only [messageFormat, Inbuf.short, Inbuf.len]
  rw [inbuf.received_getD (by omega), inbuf.received_getD (by omega)]

theorem Inbuf.consume_received (len : Nat) :
    (inbuf.consume len).received = inbuf.received.drop len := by
  rw [Inbuf.consume]
  split_ifs with more
  · refine List.ext_getElem (by simp) fun i inside _ => ?_
    have bound : i < inbuf.done - len := by simpa using inside
    simp [Inbuf.received, bound, Nat.add_comm]
  · rw [Inbuf.received_empty rfl, List.drop_eq_nil_of_le (by simpa using more)]

theorem bgpRead_received {chunk : List UInt8} (empty : peer.inbuf.done = 0) :
    (bgpRead server peer (.read chunk)).1.inbuf.received = chunk := by
  simp only [bgpRead, Inbuf.received, empty, ↓reduceIte, Nat.zero_add]
  refine List.ext_getElem (by simp) fun i _ inside => ?_
  simp [inside]

/-- What decides how long an UPDATE gets. -/
structure Peer.Fits (peer : Peer) : Prop where
  routes : ∀ dest ∈ peer.routes, dest.len ≤ 32
  routes6 : ∀ dest ∈ peer.routes6, dest.len ≤ 128
  attrs : peer.pathAttrLen ≤ 35
  attrs6 : peer.pathAttrLenWithoutNexthop ≤ 28

theorem IpPrefix.size_le {dest : IpPrefix} (short : dest.len ≤ most) :
    dest.size ≤ 1 + (most + 7) / 8 := by
  rw [IpPrefix.size]
  split <;> omega

/-- All prefixes have a length that fits. -/
structure Differences.Bounded (diff : Differences) (most : Nat) : Prop where
  routes : ∀ dest ∈ diff.routes, dest.len ≤ most
  want : ∀ dest ∈ diff.want, dest.len ≤ most
  add : ∀ dest ∈ diff.add, dest.len ≤ most

theorem nextDifference_bounded {diff next : Differences}
    (found : nextDifference diff = some next) (bounded : diff.Bounded most) :
    next.Bounded most ∧ next.withdrawnLen ≤ diff.withdrawnLen + (1 + (most + 7) / 8) := by
  obtain ⟨kept, have_, want, withdrawn, add, more⟩ := diff
  obtain ⟨routes, wanted, added⟩ := bounded
  simp only [Differences.routes] at routes
  cases have_ with
  | nil =>
      cases want with
      | nil => cases found
      | cons first wants =>
          simp only [nextDifference] at found
          split_ifs at found
          rw [← Option.some.inj found]
          exact ⟨⟨routes, fun dest member => wanted dest (List.mem_cons_of_mem _ member),
            by simpa using wanted first List.mem_cons_self⟩, Nat.le_add_right ..⟩
  | cons route rest =>
      have shorter : ∀ dest ∈ kept ++ rest, dest.len ≤ most := fun dest member =>
        routes dest (by
          simp only [List.mem_append, List.mem_cons] at member ⊢
          tauto)
      have withdraws :
          Differences.withdrawnLen ⟨kept, rest, want, withdrawn ++ [route], add, more⟩ ≤
          Differences.withdrawnLen ⟨kept, route :: rest, want, withdrawn, add, more⟩ +
            (1 + (most + 7) / 8) := by
        have size := IpPrefix.size_le (routes route (by simp))
        simp only [Differences.withdrawnLen, List.map_append, List.sum_append, List.map_cons,
          List.map_nil, List.sum_singleton]
        omega
      cases want with
      | nil =>
          rw [← Option.some.inj found]
          exact ⟨⟨shorter, wanted, added⟩, withdraws⟩
      | cons first wants =>
          have others : ∀ dest ∈ wants, dest.len ≤ most := fun dest member =>
            wanted dest (List.mem_cons_of_mem _ member)
          simp only [nextDifference] at found
          split_ifs at found
          · rw [← Option.some.inj found]
            exact ⟨⟨shorter, wanted, added⟩, withdraws⟩
          · rw [← Option.some.inj found]
            exact ⟨⟨by simpa [Differences.routes] using routes, others, added⟩,
              Nat.le_add_right ..⟩
          · rw [← Option.some.inj found]
            exact ⟨⟨routes, others, added⟩, Nat.le_add_right ..⟩
          · rw [← Option.some.inj found]
            exact ⟨⟨routes, others, by simpa using wanted first List.mem_cons_self⟩,
              Nat.le_add_right ..⟩

theorem findDifferences_bounded {most room : Nat} (diff : Differences)
    (bounded : diff.Bounded most) (less : diff.withdrawnLen < room + (1 + (most + 7) / 8)) :
    (findDifferences room diff).Bounded most ∧
      (findDifferences room diff).withdrawnLen < room + (1 + (most + 7) / 8) := by
  fun_induction findDifferences room diff with
  | case1 diff within next found ih =>
      obtain ⟨still, step⟩ := nextDifference_bounded found bounded
      exact ih still (by omega)
  | case2 diff within found => exact ⟨bounded, less⟩
  | case3 diff full => exact ⟨bounded, less⟩

theorem Differences.Bounded.start {have_ want : List IpPrefix}
    (routes : ∀ dest ∈ have_, dest.len ≤ most) (wanted : ∀ dest ∈ want, dest.len ≤ most) :
    (Differences.start have_ want).Bounded most :=
  ⟨by simpa [Differences.start, Differences.routes] using routes, wanted, nofun⟩

/-- The connection is gone, and all that was pending with it. -/
structure Peer.Closed (peer : Peer) : Prop where
  gone : ¬ peer.Connected
  leaves : ¬ peer.Listening
  output : peer.outbuf.len = 0
  started : peer.outbuf.done = 0
  input : peer.inbuf.done = 0
  fits : peer.Fits

theorem bgpClear_closed (leaves : ¬ peer.Listening) (attrs : peer.pathAttrLen ≤ 35)
    (attrs6 : peer.pathAttrLenWithoutNexthop ≤ 28) : (bgpClear server peer).Closed := by
  rw [bgpClear]
  split_ifs with same
  · have gone : ¬ peer.Connected := by
      rwa [Peer.Connected, same]
    exact ⟨gone, leaves, rfl, rfl, rfl, ⟨by simp, by simp, attrs, attrs6⟩⟩
  · exact ⟨leaves, leaves, rfl, rfl, rfl, ⟨by simp, by simp, attrs, attrs6⟩⟩

theorem bgpSetRetry_closed (fits : peer.Fits) : (bgpSetRetry server peer).Closed := by
  rw [bgpSetRetry]
  split_ifs
  · exact bgpClear_closed (by simp [Peer.Listening]) fits.attrs fits.attrs6
  · exact bgpClear_closed (by simp [Peer.Listening]) fits.attrs fits.attrs6

/-- How a write of a whole message, or of nothing, ends. -/
inductive Outcome (prepared : Peer) : WriteResult → Peer → Prop where
  | silent {result : WriteResult} (nothing : prepared.outbuf.len = 0) :
      Outcome prepared result prepared
  | blocked : Outcome prepared .again prepared
  | closed {result : WriteResult} {after : Peer} (closed : after.Closed) :
      Outcome prepared result after
  | written {after : Peer} (listening : prepared.Listening) (connected : after.Connected)
      (output : after.outbuf.len = 0) (started : after.outbuf.done = 0)
      (input : after.inbuf = prepared.inbuf) (next : after.nextState = prepared.nextState)
      (fits : after.Fits) : Outcome prepared (.wrote prepared.outbuf.len) after

theorem bgpWrite_outcome (connected : prepared.Connected) (fits : prepared.Fits)
    (whole : WholeWrite prepared.outbuf result) :
    Outcome prepared result (bgpWrite server prepared result).1 := by
  cases result with
  | again => exact .blocked
  | failed => exact .closed (bgpSetRetry_closed fits)
  | wrote count =>
      obtain rfl := whole count rfl
      rw [bgpWrite, if_neg (Nat.lt_irrefl _)]
      by_cases stays : prepared.state = prepared.nextState
      · have listening : prepared.Listening := by
          rwa [Peer.Listening, ← stays]
        simp only [stays, ↓reduceIte]
        split <;>
          exact .written listening listening rfl rfl rfl rfl ⟨fits.1, fits.2, fits.3, fits.4⟩
      simp only [stays, ↓reduceIte]
      by_cases leaves : prepared.nextState = .disabled ∨ prepared.nextState = .idle
      · rw [if_pos leaves]
        have deaf : ¬ prepared.Listening := fun listening =>
          leaves.elim listening.2 listening.1
        refine .closed ?_
        split <;> exact bgpClear_closed deaf fits.attrs fits.attrs6
      · rw [if_neg leaves]
        have listening : prepared.Listening :=
          ⟨fun idle => leaves (.inr idle), fun disabled => leaves (.inl disabled)⟩
        split <;>
          exact .written listening listening rfl rfl rfl rfl ⟨fits.1, fits.2, fits.3, fits.4⟩

/-- A peer with nothing pending, and sizes that fit. -/
structure Peer.Idle (peer : Peer) : Prop where
  connected : peer.Connected
  listening : peer.Listening
  output : peer.outbuf.len = 0
  started : peer.outbuf.done = 0
  fits : peer.Fits

/-- What an action makes of a peer up to its write: the connection is closed, or about to be, or
it goes on with some of its input taken. -/
inductive Readied (peer : Peer) (count : Nat) (prepared : Peer) : Prop where
  | closed (closed : prepared.Closed)
  | notified (connected : prepared.Connected) (leaves : ¬ prepared.Listening)
      (output : prepared.outbuf.len ≠ 0) (input : prepared.inbuf.done ≤ peer.inbuf.done - count)
  | goesOn (connected : prepared.Connected) (listening : prepared.Listening)
      (input : prepared.inbuf.received = peer.inbuf.received.drop count)

structure Peer.Sized (peer : Peer) : Prop where
  started : peer.outbuf.done = 0
  output : peer.outbuf.len ≤ bgpMaxPacketSize
  input : peer.inbuf.done ≤ bgpMaxPacketSize
  fits : peer.Fits

theorem Peer.Closed.sized (closed : peer.Closed) : peer.Sized :=
  ⟨closed.started, by simp [closed.output], by simp [closed.input], closed.fits⟩

/-- An action that takes `count` bytes of the input, as a function of what its write returns. -/
structure Proceeds (peer : Peer) (count : Nat) (run : WriteResult → Option Peer) : Prop where
  again : ∃ prepared, run .again = some prepared ∧ Readied peer count prepared ∧ prepared.Sized ∧
    ∀ result after, WholeWrite prepared.outbuf result → run result = some after →
      Outcome prepared result after

/-- What is left of the input is no more than what was not taken. -/
theorem Proceeds.input_le {run : WriteResult → Option Peer}
    (proceeds : Proceeds peer count run) (again : run .again = some prepared)
    (whole : WholeWrite prepared.outbuf result) (same : run result = some after) :
    after.inbuf.done ≤ peer.inbuf.done - count := by
  obtain ⟨prepared', again', readied, -, outcome⟩ := proceeds.again
  obtain rfl := Option.some.inj (again.symm.trans again')
  have less : prepared.inbuf.done ≤ peer.inbuf.done - count := by
    rcases readied with closed | ⟨-, -, -, less⟩ | ⟨-, -, input⟩
    · simp [closed.input]
    · exact less
    · have size := congrArg List.length input
      simp at size
      omega
  rcases outcome result after whole same with nothing | ⟨⟩ | closed | ⟨-, -, -, -, input, -, -⟩
  · exact less
  · exact less
  · simp [closed.input]
  · rwa [input]

theorem Proceeds.of_write {send : WriteResult → Peer}
    (writes : ∀ result, send result = (bgpWrite server (send .again) result).1)
    (connected : (send .again).Connected) (sized : (send .again).Sized)
    (readied : Readied peer count (send .again)) :
    Proceeds peer count fun result => some (send result) := by
  refine ⟨_, rfl, readied, sized, fun result after whole same => ?_⟩
  rw [← Option.some.inj same, writes result]
  exact bgpWrite_outcome connected sized.fits whole

theorem Proceeds.of_silent (nothing : prepared.outbuf.len = 0)
    (sized : prepared.Sized) (readied : Readied peer count prepared) :
    Proceeds peer count fun _ => some prepared := by
  refine ⟨prepared, rfl, readied, sized, fun result after _ same => ?_⟩
  rw [← Option.some.inj same]
  exact .silent nothing

theorem header_fits {more : Nat} (short : more ≤ 2) :
    bgpHeaderSize + more ≤ bgpMaxPacketSize := by
  have size : bgpHeaderSize = 19 := rfl
  have most : bgpMaxPacketSize = 4096 := rfl
  omega

theorem bgpSendNotification_proceeds {sender : Peer} (connected : sender.Connected)
    (fits : sender.Fits) (code subcode count : Nat) :
    Proceeds peer count fun result =>
      some (bgpSendNotification server sender code subcode result).1 := by
  refine .of_write (fun _ => rfl) connected
    ⟨rfl, header_fits (Nat.le_refl 2), Nat.zero_le _, ?_⟩
    (.notified connected ?_ nofun (Nat.zero_le _))
  · exact ⟨fits.1, fits.2, fits.3, fits.4⟩
  · simp only [Peer.Listening, bgpSendNotification, bgpWrite]
    split <;> simp

theorem bgpSendKeepalive_proceeds (idle : peer.Idle) (input : peer.inbuf.done ≤ bgpMaxPacketSize) :
    Proceeds peer 0 fun result => some (bgpSendKeepalive server peer result).1 := by
  refine .of_write (fun _ => rfl) idle.connected
    ⟨rfl, header_fits (Nat.zero_le 2), input, ?_⟩ (.goesOn idle.connected ?_ rfl)
  · exact ⟨idle.fits.1, idle.fits.2, idle.fits.3, idle.fits.4⟩
  · simp only [Peer.Listening, bgpSendKeepalive, bgpWrite]
    split
    · simp
    · exact idle.connected

theorem mem_bgpInsertRoute {new : IpPrefix}
    (fits : ∀ dest ∈ routes, dest.len ≤ most) (short : new.len ≤ most) :
    ∀ dest ∈ bgpInsertRoute routes new, dest.len ≤ most := by
  intro dest member
  rw [bgpInsertRoute, List.mem_orderedInsert] at member
  rcases member with rfl | old
  · exact short
  · exact fits dest old

theorem Peer.wanted_fits
    (fits : ∀ dest ∈ routes, dest.len ≤ most) : ∀ dest ∈ peer.wanted routes, dest.len ≤ most := by
  rw [Peer.wanted]
  split
  · exact fits
  · exact nofun

/-- An UPDATE is no longer than the buffer. -/
theorem bgpSendUpdate_proceeds (idle : peer.Idle) (input : peer.inbuf.done ≤ bgpMaxPacketSize)
    (fits : ∀ dest ∈ routes, dest.len ≤ 32) (allocated : Bool) :
    Proceeds peer 0 fun result =>
      some (bgpSendUpdate server routes allocated peer result).1 := by
  have bounded := @findDifferences_bounded 32 (updateRoom peer)
    (.start peer.routes (peer.wanted routes))
    (.start idle.fits.routes (Peer.wanted_fits fits)) (Nat.succ_pos _)
  simp only [bgpSendUpdate]
  generalize findDifferences (updateRoom peer) (.start peer.routes (peer.wanted routes)) = diff
    at bounded
  obtain ⟨⟨kept, -, added⟩, withdrawn⟩ := bounded
  have size : bgpHeaderSize = 19 := rfl
  have most : bgpMaxPacketSize = 4096 := rfl
  have attrs := idle.fits.attrs
  rw [updateRoom] at withdrawn
  cases add : diff.add with
  | none =>
      simp only
      split_ifs
      · exact .of_silent idle.output
          ⟨idle.started, by simp [idle.output], input, ⟨kept, idle.fits.2, attrs, idle.fits.4⟩⟩
          (.goesOn idle.connected idle.listening rfl)
      · refine .of_write (fun _ => rfl) idle.connected
          ⟨rfl, ?_, input, ⟨kept, idle.fits.2, attrs, idle.fits.4⟩⟩
          (.goesOn idle.connected idle.listening rfl)
        simp only [bgpWrite]
        omega
  | some dest =>
      have short := IpPrefix.size_le (added dest add)
      simp only
      split_ifs
      · refine .of_write (fun _ => rfl) idle.connected
          ⟨rfl, ?_, input, ⟨mem_bgpInsertRoute kept (added dest add), idle.fits.2, attrs,
            idle.fits.4⟩⟩
          (.goesOn idle.connected idle.listening rfl)
        simp only [bgpWrite]
        omega
      · exact .of_silent idle.output
          ⟨idle.started, by simp [idle.output], input, ⟨kept, idle.fits.2, attrs, idle.fits.4⟩⟩
          (.goesOn idle.connected idle.listening rfl)

theorem bgpSendUpdate6_proceeds (idle : peer.Idle) (input : peer.inbuf.done ≤ bgpMaxPacketSize)
    {routes6 : List IpPrefix} (fits : ∀ dest ∈ routes6, dest.len ≤ 128) (allocated : Bool) :
    Proceeds peer 0 fun result =>
      some (bgpSendUpdate6 server routes6 allocated peer result).1 := by
  have bounded := @findDifferences_bounded 128 (updateRoom6 peer)
    (.start peer.routes6 (peer.wanted routes6))
    (.start idle.fits.routes6 (Peer.wanted_fits fits)) (Nat.succ_pos _)
  simp only [bgpSendUpdate6]
  generalize findDifferences (updateRoom6 peer) (.start peer.routes6 (peer.wanted routes6)) = diff
    at bounded
  obtain ⟨⟨kept, -, added⟩, withdrawn⟩ := bounded
  have size : bgpHeaderSize = 19 := rfl
  have most : bgpMaxPacketSize = 4096 := rfl
  have unreach : mpUnreachSize = 7 := rfl
  have reach : mpReachSize = 24 := rfl
  have attrs6 := idle.fits.attrs6
  rw [updateRoom6] at withdrawn
  cases add : diff.add with
  | none =>
      simp only
      split_ifs
      · exact .of_silent idle.output
          ⟨idle.started, by simp [idle.output], input, ⟨idle.fits.1, kept, idle.fits.3, attrs6⟩⟩
          (.goesOn idle.connected idle.listening rfl)
      · refine .of_write (fun _ => rfl) idle.connected
          ⟨rfl, ?_, input, ⟨idle.fits.1, kept, idle.fits.3, attrs6⟩⟩
          (.goesOn idle.connected idle.listening rfl)
        simp only [bgpWrite]
        omega
  | some dest =>
      have short := IpPrefix.size_le (added dest add)
      by_cases found : allocated
      · simp only [found, ↓reduceIte]
        refine .of_write (fun _ => rfl) idle.connected
          ⟨rfl, ?_, input, ⟨idle.fits.1, mem_bgpInsertRoute kept (added dest add), idle.fits.3,
            attrs6⟩⟩
          (.goesOn idle.connected idle.listening rfl)
        simp only [bgpWrite]
        split <;> omega
      · simp only [found, Bool.false_eq_true, ↓reduceIte]
        exact .of_silent idle.output
          ⟨idle.started, by simp [idle.output], input, ⟨idle.fits.1, kept, idle.fits.3, attrs6⟩⟩
          (.goesOn idle.connected idle.listening rfl)

theorem bgpWrite_proceeds (connected : peer.Connected) (sized : peer.Sized)
    (pending : peer.outbuf.len ≠ 0) :
    Proceeds peer 0 fun result => some (bgpWrite server peer result).1 := by
  refine .of_write (fun _ => rfl) connected sized ?_
  by_cases listening : peer.Listening
  · exact .goesOn connected listening rfl
  · exact .notified connected listening pending (Nat.le_refl _)

theorem bgpProcessTimers_proceeds (established : peer.state = .established) (sized : peer.Sized)
    (idle : peer.outbuf.len = 0 → peer.Idle)
    (due : peer.expireTime < server.timeNow ∨
      peer.keepaliveTime < server.timeNow ∧ peer.outbuf.len = 0) :
    Proceeds peer 0 fun result => some (bgpProcessTimers server peer result .noService) := by
  have connected : peer.Connected := by simp [Peer.Connected, established]
  simp only [bgpProcessTimers, established, ↓reduceIte]
  by_cases expired : peer.expireTime < server.timeNow
  · simp only [expired, ↓reduceIte]
    exact bgpSendNotification_proceeds connected sized.fits ..
  · have keepalive := due.resolve_left expired
    simp only [expired, keepalive, and_self, ↓reduceIte]
    exact bgpSendKeepalive_proceeds (idle keepalive.2) sized.input

theorem Proceeds.takes {sender : Peer} {send : WriteResult → Peer} {len : Nat}
    (proceeds : Proceeds sender 0 fun result => some (send result))
    (input : sender.inbuf = peer.inbuf) :
    Proceeds peer len fun result => (Handled.takes (send result)).after server len := by
  have finished {handled : Peer} (closed : handled.Closed) : Peer.Closed { handled with
      expireTime := server.timeNow + handled.hold
      inbuf := handled.inbuf.consume len } := by
    refine ⟨closed.gone, closed.leaves, closed.output, closed.started, ?_, ?_⟩
    · simp [Inbuf.consume_done, closed.input]
    · exact ⟨closed.fits.1, closed.fits.2, closed.fits.3, closed.fits.4⟩
  obtain ⟨prepared, again, readied, sized, outcome⟩ := proceeds.again
  refine ⟨_, rfl, ?_, ?_, fun result after whole same => ?_⟩
  · rw [Option.some.inj again]
    rcases readied with closed | ⟨connected, leaves, output, less⟩ | ⟨connected, listening, same⟩
    · exact .closed (finished closed)
    · refine .notified connected leaves output ?_
      rw [Inbuf.consume_done, ← input]
      exact Nat.sub_le_sub_right less len
    · refine .goesOn connected listening ?_
      rw [Inbuf.consume_received, same, input, List.drop_drop, Nat.zero_add]
  · rw [Option.some.inj again]
    refine ⟨sized.started, sized.output, ?_, sized.fits.1, sized.fits.2, sized.fits.3,
      sized.fits.4⟩
    rw [Inbuf.consume_done]
    exact Nat.le_trans (Nat.sub_le ..) sized.input
  · have sent := outcome result (send result) (Option.some.inj again ▸ whole) rfl
    rw [← Option.some.inj same]
    rw [Option.some.inj again] at whole ⊢
    generalize send result = handled at sent ⊢
    cases sent with
    | silent nothing => exact .silent nothing
    | blocked => exact .blocked
    | closed closed => exact .closed (finished closed)
    | written listening connected output started same next fits =>
        refine .written listening connected output started ?_ next ⟨fits.1, fits.2, fits.3, fits.4⟩
        simp only [same]

theorem refuse_proceeds {sender : Peer} (connected : sender.Connected) (fits : sender.Fits)
    (code subcode len : Nat) :
    Proceeds peer len fun result => (refuse server sender code subcode result).after server len :=
  bgpSendNotification_proceeds connected fits code subcode len

theorem silent_proceeds {sender : Peer} (idle : sender.Idle)
    (input : peer.inbuf.done ≤ bgpMaxPacketSize) (same : sender.inbuf = peer.inbuf) (len : Nat) :
    Proceeds peer len fun _ => (Handled.takes sender).after server len := by
  refine Proceeds.takes (.of_silent idle.output ⟨idle.started, by simp [idle.output], ?_,
    idle.fits⟩ (.goesOn idle.connected idle.listening ?_)) same
  · rwa [same]
  · simp

theorem retry_proceeds {sender : Peer} (fits : sender.Fits) (len : Nat) :
    Proceeds peer len fun _ =>
      (Handled.returns (bgpSetRetry server sender)).after server len := by
  have closed := @bgpSetRetry_closed server sender fits
  exact .of_silent closed.output closed.sized (.closed closed)

theorem negotiate_proceeds (idle : peer.Idle) (input : peer.inbuf.done ≤ bgpMaxPacketSize)
    (data : Nat → UInt8) (len : Nat) :
    Proceeds peer len fun result => (negotiate server peer data result).after server len := by
  simp only [negotiate]
  generalize scanParams data (data 9).toNat peer.mpHandling 0 = scanned
  obtain ⟨handling, subcode | subcode⟩ := scanned
  · refine Proceeds.takes (bgpSendKeepalive_proceeds ⟨idle.connected, idle.listening, idle.output,
      idle.started, ?_⟩ input) rfl
    exact ⟨idle.fits.1, idle.fits.2, idle.fits.3, idle.fits.4⟩
  · refine refuse_proceeds ?_ ?_ ..
    · exact idle.connected
    · exact ⟨idle.fits.1, idle.fits.2, idle.fits.3, idle.fits.4⟩

theorem handleOpen_proceeds (idle : peer.Idle)
    (input : peer.inbuf.done ≤ bgpMaxPacketSize) (header : bgpHeaderSize ≤ peer.inbuf.len)
    (len : Nat) :
    Proceeds peer len fun result =>
      (handleOpen server peer stack result).after server len := by
  have refused (code subcode : Nat) := @refuse_proceeds server peer peer idle.connected idle.fits
    code subcode len
  simp only [handleOpen, Nat.not_lt.mpr header, ↓reduceIte]
  generalize openData peer.inbuf.bytes stack peer.inbuf.len = data
  split_ifs
  · exact refused ..
  · exact refused ..
  · exact refused ..
  · exact refused ..
  · exact negotiate_proceeds idle input data len
  · exact refused ..

theorem handleNotification_proceeds (idle : peer.Idle)
    (input : peer.inbuf.done ≤ bgpMaxPacketSize) (len : Nat) :
    Proceeds peer len fun _ => (handleNotification server peer).after server len := by
  have fits (handling : MpHandling) : Peer.Fits { peer with mpHandling := handling } :=
    ⟨idle.fits.1, idle.fits.2, idle.fits.3, idle.fits.4⟩
  simp only [handleNotification]
  split_ifs
  · exact silent_proceeds idle input rfl len
  · exact retry_proceeds idle.fits len
  · exact retry_proceeds (fits _) len
  · exact @silent_proceeds server peer { peer with mpHandling := .doesntHandleIpv6Routes }
      ⟨idle.connected, idle.listening, idle.output, idle.started, fits _⟩ input rfl len
  · exact silent_proceeds idle input rfl len

theorem handleKeepalive_idle (idle : peer.Idle) : (handleKeepalive server peer).Idle := by
  rw [handleKeepalive]
  split
  · exact ⟨by simp [Peer.Connected], by simp [Peer.Listening], idle.output, idle.started,
      ⟨idle.fits.1, idle.fits.2, idle.fits.3, idle.fits.4⟩⟩
  · exact idle

/-- A whole message at the front is taken from the input, or ends the connection. -/
theorem bgpHandleInput_proceeds (idle : peer.Idle)
    (input : peer.inbuf.done ≤ bgpMaxPacketSize) (header : bgpHeaderSize ≤ peer.inbuf.len)
    (whole : peer.inbuf.len ≤ peer.inbuf.done) :
    Proceeds peer peer.inbuf.len (bgpHandleInput server peer stack) := by
  have received (result : WriteResult) := @bgpHandleInput_received server peer stack result
    (Nat.le_trans whole input) whole
  rw [funext received]
  simp only [handleMessage]
  split_ifs
  · exact handleOpen_proceeds idle input header _
  · exact silent_proceeds (handleKeepalive_idle idle) input handleKeepalive_inbuf _
  · exact handleNotification_proceeds idle input _
  · exact silent_proceeds idle input rfl _

/-- What holds of a connection in each state. -/
structure Kept (messages : List (List UInt8)) (line : Line) : Prop where
  inside : line.inside
  sized : line.peer.Sized
  packet : line.peer.outbuf.len ≠ 0 → line.packet.length = line.peer.outbuf.len
  leaving : line.peer.Connected → ¬ line.peer.Listening → line.peer.outbuf.len ≠ 0
  processed : ∃ rest, line.processed ++ rest = messages ∧
    (line.peer.Listening → rest.flatten = line.peer.inbuf.received ++ line.unread)
  sent : ∃ rest, line.queued.flatten = line.sent ++ rest ∧
    (line.peer.Connected → rest = line.pending)

variable {messages : List (List UInt8)} {line next : Line}

theorem Kept.idle (kept : Kept messages line) (connected : line.peer.Connected)
    (nothing : line.peer.outbuf.len = 0) : line.peer.Idle :=
  ⟨connected, not_not.mp fun leaves => kept.leaving connected leaves nothing, nothing,
    kept.sized.started, kept.sized.fits⟩

/-- The message that a whole header and the bytes that it tells are there of. -/
theorem Kept.arrived (kept : Kept messages line) (wellFormed : ∀ m ∈ messages, WellFormed m)
    (connected : line.peer.Connected) (input : line.peer.HasInput)
    (whole : line.peer.inbuf.len ≤ line.peer.inbuf.done) :
    ∃ rest, line.processed ++ line.peer.inbuf.received.take line.peer.inbuf.len :: rest =
        messages ∧
      rest.flatten = line.peer.inbuf.received.drop line.peer.inbuf.len ++ line.unread := by
  obtain ⟨rest, rfl, stream⟩ := kept.processed
  have frames : ∀ frame ∈ rest, messageFormat.IsFrame frame := fun frame member =>
    (wellFormed frame (List.mem_append_right _ member)).frame
  have told := Inbuf.received_format input.1
  obtain ⟨others, rfl, left⟩ := FrameFormat.arrived frames
    (stream (kept.idle connected input.2).listening)
    (by rw [Inbuf.received_length]; exact input.1)
    (by simpa [told] using whole)
  rw [told] at left ⊢
  exact ⟨others, rfl, left⟩

/-- How many bytes of the input an action takes. -/
def Action.consumes (peer : Peer) : Action → Nat
  | .handle _ => peer.inbuf.len
  | _ => 0

/-- What an action does with the streams up to its write. -/
structure Advances (messages : List (List UInt8)) (line : Line) (action : Action) : Prop where
  proceeds : Proceeds line.peer (action.consumes line.peer) (action.run line.server line.peer)
  rest : ∃ rest, line.processed ++ action.message line.peer ++ rest = messages ∧
    ∀ prepared, action.run line.server line.peer .again = some prepared → prepared.Listening →
      rest.flatten =
        line.peer.inbuf.received.drop (action.consumes line.peer) ++ line.unread
  idle : action.queues → line.peer.outbuf.len = 0

theorem Kept.advances (kept : Kept messages line) (idle : line.peer.Idle)
    (proceeds : Proceeds line.peer 0 (action.run line.server line.peer))
    (nothing : action.message line.peer = []) (keeps : action.consumes line.peer = 0) :
    Advances messages line action := by
  obtain ⟨rest, whole, stream⟩ := kept.processed
  refine ⟨keeps ▸ proceeds, ⟨rest, ?_, fun _ _ _ => ?_⟩, fun _ => idle.output⟩
  · rwa [nothing, List.append_nil]
  · rw [keeps]
    exact stream idle.listening

theorem Kept.act_advances (kept : Kept messages line) (wellFormed : ∀ m ∈ messages, WellFormed m)
    (connected : line.peer.Connected) (enabled : action.Enabled line.server line.peer)
    (sound : Sound line (.act action result bytes)) : Advances messages line action := by
  have input := kept.sized.input
  cases action with
  | write =>
      obtain ⟨rest, whole, stream⟩ := kept.processed
      refine ⟨bgpWrite_proceeds connected kept.sized enabled, ⟨rest, ?_, ?_⟩, nofun⟩
      · simpa [Action.message] using whole
      · intro prepared same listening
        obtain rfl := Option.some.inj same
        exact stream listening
  | handle stack =>
      have idle := kept.idle connected enabled.2
      have whole : line.peer.inbuf.len ≤ line.peer.inbuf.done := sound.2
      obtain ⟨rest, split, left⟩ := kept.arrived wellFormed connected enabled whole
      have formed := wellFormed (line.peer.inbuf.received.take line.peer.inbuf.len) (by
        rw [← split]
        simp)
      have header : bgpHeaderSize ≤ line.peer.inbuf.len := by
        have frame := formed.frame.header
        rw [List.length_take] at frame
        exact Nat.le_trans frame (Nat.min_le_left ..)
      refine ⟨bgpHandleInput_proceeds idle input header whole,
        ⟨rest, ?_, fun _ _ _ => left⟩, fun _ => enabled.2⟩
      rw [Action.message, if_pos ⟨Nat.le_trans whole input, whole⟩, List.append_assoc]
      exact split
  | update routes allocated =>
      have idle := kept.idle connected enabled.2.1
      exact kept.advances idle (bgpSendUpdate_proceeds idle input enabled.2.2 allocated) rfl
        rfl
  | update6 routes6 allocated =>
      have idle := kept.idle connected enabled.2.1
      exact kept.advances idle (bgpSendUpdate6_proceeds idle input enabled.2.2 allocated) rfl
        rfl
  | timers =>
      exact kept.advances (kept.idle connected sound.2) (bgpProcessTimers_proceeds enabled.1
        kept.sized (kept.idle connected) enabled.2) rfl rfl
  | stop =>
      exact kept.advances (kept.idle connected sound.2)
        (bgpSendNotification_proceeds connected kept.sized.fits ..) rfl rfl

theorem taken_nothing {outbuf : Outbuf} (nothing : outbuf.len = 0)
    (possible : Possible outbuf result) : taken bytes result = [] := by
  cases result with
  | wrote count =>
      obtain ⟨some, most⟩ := possible
      omega
  | again | failed => rfl

/-- What is written from follows what was sent, and ends what was queued. -/
theorem Kept.queued (kept : Kept messages line)
    (connected : line.peer.Connected) (enabled : action.Enabled line.server line.peer)
    (again : action.run line.server line.peer .again = some prepared)
    (idle : action.queues → line.peer.outbuf.len = 0)
    (address : if action.queues then bytes.length = prepared.outbuf.len
      else prepared.outbuf.done = 0 → bytes = line.packet) :
    bytes.length = prepared.outbuf.len ∧
      (if action.queues ∧ prepared.outbuf.len ≠ 0 then line.queued ++ [bytes]
        else line.queued).flatten = line.sent ++ bytes ∧
      (if action.queues then bytes else line.packet) = bytes := by
  obtain ⟨rest, stream, pending⟩ := kept.sent
  rw [pending connected, Line.pending] at stream
  by_cases queues : action.queues
  · simp only [queues, ↓reduceIte, idle queues, true_and, List.append_nil] at address stream ⊢
    refine ⟨address, ?_, trivial⟩
    by_cases nothing : prepared.outbuf.len = 0
    · have empty : bytes = [] := List.eq_nil_of_length_eq_zero (address.trans nothing)
      simp [nothing, empty, stream]
    · simp [nothing, stream]
  · cases action with
    | write =>
        obtain rfl := Option.some.inj again
        have started : line.peer.outbuf.done = 0 := kept.sized.started
        have pending : line.peer.outbuf.len ≠ 0 := enabled
        have same : bytes = line.packet := address started
        refine ⟨same ▸ kept.packet pending, ?_, same.symm⟩
        rw [same]
        simpa [queues, pending] using stream
    | _ => exact absurd rfl queues

theorem kept_act (kept : Kept messages line) (wellFormed : ∀ m ∈ messages, WellFormed m)
    (sound : Sound line (.act action result bytes))
    (acts : Acts line action result bytes next) : Kept messages next := by
  obtain ⟨connected, enabled, prepared, after, again, run, possible, address, rfl⟩ := acts
  obtain ⟨proceeds, ⟨rest, whole, stream⟩, idle⟩ :=
    kept.act_advances wellFormed connected enabled sound
  obtain ⟨size, queued, packet⟩ := kept.queued connected enabled again idle address
  obtain ⟨prepared', again', readied, sized, outcome⟩ := proceeds.again
  obtain rfl := Option.some.inj (again.symm.trans again')
  have inside : action.inside line.peer prepared := by
    simp only [Action.inside, decide_eq_true_eq]
    exact ⟨fun _ => kept.sized.input, .inr ⟨sized.started, sized.output⟩⟩
  have listens (listening : prepared.Listening) :
      rest.flatten = prepared.inbuf.received ++ line.unread := by
    rcases readied with closed | ⟨connected, leaves, output, -⟩ | ⟨connected, listening, input⟩
    · exact absurd listening closed.leaves
    · exact absurd listening leaves
    · rw [input]
      exact stream prepared again listening
  have leaves (connected : prepared.Connected) (leaves : ¬ prepared.Listening) :
      prepared.outbuf.len ≠ 0 := by
    rcases readied with closed | ⟨connected, leaves, output, -⟩ | ⟨connected, listening, input⟩
    · exact absurd connected closed.gone
    · exact output
    · exact absurd listening leaves
  rcases outcome result after (sound.1 prepared again) run with nothing | ⟨⟩ | closed |
    ⟨listening, connected', output, started, input, same, fits⟩
  · refine ⟨by simp [kept.inside, inside], sized, fun some => absurd nothing some, leaves,
      ⟨rest, whole, listens⟩, [], ?_, fun _ => ?_⟩
    · have empty : bytes = [] := List.eq_nil_of_length_eq_zero (size.trans nothing)
      simp only [taken_nothing nothing possible, List.append_nil]
      rw [queued, empty, List.append_nil]
    · simp [Line.pending, nothing]
  · refine ⟨by simp [kept.inside, inside], sized, fun _ => ?_, leaves, ⟨rest, whole, listens⟩,
      bytes, ?_, fun _ => ?_⟩
    · simp only [packet, size]
    · simp only [taken, List.append_nil]
      exact queued
    · simp only [Line.pending, packet]
      split_ifs with nothing
      · exact List.eq_nil_of_length_eq_zero (size.trans nothing)
      · rfl
  · refine ⟨by simp [kept.inside, inside], closed.sized, fun some => absurd closed.output some,
      fun connected => absurd connected closed.gone,
      ⟨rest, whole, fun listening => absurd listening closed.leaves⟩, ?_⟩
    have front : taken bytes result <+: bytes := by
      cases result with
      | wrote count => exact List.take_prefix ..
      | again | failed => exact List.nil_prefix
    obtain ⟨left, split⟩ := front
    refine ⟨left, ?_, fun connected => absurd connected closed.gone⟩
    simp only
    rw [queued, List.append_assoc, split]
  · have all : taken bytes (.wrote prepared.outbuf.len) = bytes := by
      rw [taken, ← size, List.take_length]
    refine ⟨by simp [kept.inside, inside], ⟨started, by simp [output], ?_, fits⟩,
      fun some => absurd output some, fun _ leaves => ?_, ⟨rest, whole, fun _ => ?_⟩, [], ?_,
      fun _ => ?_⟩
    · rw [input]
      exact sized.input
    · refine absurd ?_ leaves
      rwa [Peer.Listening, same]
    · simp only [input]
      exact listens listening
    · simp only [all, List.append_nil]
      exact queued
    · simp [Line.pending, output]

theorem kept_read (kept : Kept messages line) {chunk : List UInt8}
    (empty : line.peer.inbuf.done = 0) (reads : Reads line chunk next) : Kept messages next := by
  obtain ⟨connected, -, room, unread, split, rfl⟩ := reads
  obtain ⟨rest, whole, stream⟩ := kept.processed
  refine ⟨by simp [kept.inside, empty], ⟨kept.sized.started, kept.sized.output, ?_,
    ⟨kept.sized.fits.1, kept.sized.fits.2, kept.sized.fits.3, kept.sized.fits.4⟩⟩, kept.packet,
    kept.leaving, ⟨rest, whole, fun listening => ?_⟩, kept.sent⟩
  · rw [empty] at room
    simpa [bgpRead, empty] using room
  · simp only
    rw [bgpRead_received empty, ← split, stream listening, Inbuf.received_empty empty,
      List.nil_append]

theorem kept_close (kept : Kept messages line) :
    Kept messages { line with peer := bgpSetRetry line.server line.peer } := by
  have closed := @bgpSetRetry_closed line.server line.peer kept.sized.fits
  obtain ⟨rest, whole, -⟩ := kept.processed
  obtain ⟨left, stream, -⟩ := kept.sent
  exact ⟨kept.inside, closed.sized, fun some => absurd closed.output some,
    fun connected => absurd connected closed.gone,
    ⟨rest, whole, fun listening => absurd listening closed.leaves⟩,
    ⟨left, stream, fun connected => absurd connected closed.gone⟩⟩

/-- A change of flags leaves the rest of the peer. -/
theorem Change.apply_eq (peer : Peer) (change : Change) :
    ∃ routing updateRoutes updateRoutes6 cliFlag, change.apply peer = { peer with
      routing := routing
      updateRoutes := updateRoutes
      updateRoutes6 := updateRoutes6
      cliFlag := cliFlag } := by
  have flagged (peer : Peer) : ∃ updateRoutes,
      Bgp.flagRoutes peer = { peer with updateRoutes := updateRoutes } := by
    rw [Bgp.flagRoutes]
    split
    · exact ⟨true, rfl⟩
    · exact ⟨_, rfl⟩
  cases change with
  | flagRoutes =>
      obtain ⟨updateRoutes, same⟩ := flagged peer
      exact ⟨_, updateRoutes, _, _, same⟩
  | flagRoutes6 =>
      rw [Change.apply, Bgp.flagRoutes6]
      split
      · exact ⟨_, _, true, _, rfl⟩
      · exact ⟨_, _, _, _, rfl⟩
  | enableRouting enable =>
      obtain ⟨updateRoutes, same⟩ := flagged { peer with routing := enable }
      exact ⟨enable, updateRoutes, _, _, same⟩
  | cli flag => exact ⟨_, _, _, flag, rfl⟩
  | applyCli =>
      rw [Change.apply, Bgp.applyCli]
      obtain ⟨off, suspended⟩ := flagged { peer with routing := false }
      obtain ⟨on, enabled⟩ := flagged { peer with routing := true }
      generalize peer.cliFlag = flag at suspended enabled ⊢
      cases flag with
      | suspend =>
          simp only
          split
          · rw [suspended]
            exact ⟨false, off, _, .none, rfl⟩
          · exact ⟨_, _, _, .none, rfl⟩
      | enable =>
          simp only
          split
          · exact ⟨_, _, _, .none, rfl⟩
          · rw [enabled]
            exact ⟨true, on, _, .none, rfl⟩
      | none | restart => exact ⟨_, _, _, .none, rfl⟩

theorem kept_change (kept : Kept messages line) (change : Change) :
    Kept messages { line with peer := change.apply line.peer } := by
  obtain ⟨routing, updateRoutes, updateRoutes6, cliFlag, same⟩ := change.apply_eq line.peer
  rw [same]
  exact ⟨kept.inside, ⟨kept.sized.started, kept.sized.output, kept.sized.input,
    ⟨kept.sized.fits.1, kept.sized.fits.2, kept.sized.fits.3, kept.sized.fits.4⟩⟩, kept.packet,
    kept.leaving, kept.processed, kept.sent⟩

theorem kept_step (wellFormed : ∀ m ∈ messages, WellFormed m) (kept : Kept messages line)
    {transfer : Transfer} (sound : Sound line transfer) (leads : transfer.Leads line next) :
    Kept messages next := by
  cases transfer with
  | act action result bytes => exact kept_act kept wellFormed sound leads
  | read chunk => exact kept_read kept sound leads
  | close =>
      obtain ⟨-, rfl⟩ := leads
      exact kept_close kept
  | change request =>
      obtain rfl := leads
      exact kept_change kept request
  | tick timeNow =>
      obtain rfl := leads
      exact ⟨kept.inside, kept.sized, kept.packet, kept.leaving, kept.processed, kept.sent⟩

theorem kept_initial (initial : (streamSystem messages).initial line) : Kept messages line := by
  obtain ⟨fresh, packet, start, size, same⟩ := initial
  have multiprotocol : (if advertisesMultiprotocol line.server fresh = true then 8 else 0) ≤ 8 := by
    split <;> decide
  have listening : Peer.Listening (bgpSendOpen line.server fresh .again).1 := by
    simp [Peer.Listening, bgpSendOpen, bgpWrite]
  have empty : Inbuf.received (bgpSendOpen line.server fresh .again).1.inbuf = [] :=
    Inbuf.received_empty start.input
  have short : (bgpSendOpen line.server fresh .again).1.outbuf.len ≤ bgpMaxPacketSize := by
    have size : bgpHeaderSize = 19 := rfl
    have data : bgpDataOpenSize = 10 := rfl
    have most : bgpMaxPacketSize = 4096 := rfl
    simp only [bgpSendOpen, bgpWrite]
    omega
  generalize opened : (bgpSendOpen line.server fresh .again).1 = peer at *
  have started : peer.outbuf.done = 0 := opened ▸ rfl
  have input : peer.inbuf.done = 0 := opened ▸ start.input
  have some : peer.outbuf.len ≠ 0 := by
    rw [← opened, bgpSendOpen, bgpWrite]
    simp [bgpHeaderSize]
  have fits : peer.Fits := by
    rw [← opened]
    exact ⟨by simp [bgpSendOpen, bgpWrite, start.routes],
      by simp [bgpSendOpen, bgpWrite, start.routes6], start.attrs, start.attrs6⟩
  rw [same]
  exact ⟨rfl, ⟨started, short, by simp [input], fits⟩, fun _ => size,
    fun _ leaves => absurd listening leaves, ⟨messages, rfl, fun _ => by simp [empty]⟩,
    ⟨packet, by simp, fun _ => by simp [Line.pending, some]⟩⟩

section Blank

variable {whole : Peer}

theorem Peer.eq_of_blank (same : whole.blank = peer.blank) :
    ∃ inbuf, whole = { peer with inbuf := inbuf } :=
  ⟨whole.inbuf, congrArg (fun blank : Peer => { blank with inbuf := whole.inbuf }) same⟩

theorem bgpClear_blank (same : whole.blank = peer.blank) :
    (bgpClear server whole).blank = (bgpClear server peer).blank := by
  obtain ⟨inbuf, rfl⟩ := Peer.eq_of_blank same
  simp only [bgpClear]
  split_ifs <;> rfl

theorem bgpSetRetry_blank (same : whole.blank = peer.blank) :
    (bgpSetRetry server whole).blank = (bgpSetRetry server peer).blank := by
  obtain ⟨inbuf, rfl⟩ := Peer.eq_of_blank same
  simp only [bgpSetRetry, bgpHalt]
  split_ifs
  · exact bgpClear_blank (by rfl)
  · exact bgpClear_blank (by rfl)

theorem bgpWrite_blank (same : whole.blank = peer.blank) (result : WriteResult) :
    (bgpWrite server whole result).1.blank = (bgpWrite server peer result).1.blank := by
  cases result with
  | again => exact same
  | failed => exact bgpSetRetry_blank same
  | wrote count =>
      obtain ⟨inbuf, rfl⟩ := Peer.eq_of_blank same
      simp only [bgpWrite]
      split_ifs
      · rfl
      · rfl
      · rfl
      · exact bgpClear_blank (by rfl)
      · exact bgpClear_blank (by rfl)
      · rfl
      · rfl

theorem bgpSendNotification_blank (same : whole.blank = peer.blank) (code subcode : Nat)
    (result : WriteResult) :
    (bgpSendNotification server whole code subcode result).1.blank =
      (bgpSendNotification server peer code subcode result).1.blank := by
  obtain ⟨inbuf, rfl⟩ := Peer.eq_of_blank same
  simp only [bgpSendNotification]
  exact bgpWrite_blank (by rfl) result

theorem bgpSendKeepalive_blank (same : whole.blank = peer.blank) (result : WriteResult) :
    (bgpSendKeepalive server whole result).1.blank =
      (bgpSendKeepalive server peer result).1.blank := by
  obtain ⟨inbuf, rfl⟩ := Peer.eq_of_blank same
  simp only [bgpSendKeepalive]
  exact bgpWrite_blank (by rfl) result

theorem bgpSendUpdate_blank (same : whole.blank = peer.blank) (routes : List IpPrefix)
    (allocated : Bool) (result : WriteResult) :
    (bgpSendUpdate server routes allocated whole result).1.blank =
      (bgpSendUpdate server routes allocated peer result).1.blank := by
  obtain ⟨inbuf, rfl⟩ := Peer.eq_of_blank same
  have room : updateRoom { peer with inbuf := inbuf } = updateRoom peer := rfl
  have wanted : Peer.wanted { peer with inbuf := inbuf } routes = peer.wanted routes := rfl
  rw [bgpSendUpdate, bgpSendUpdate, room, wanted]
  dsimp only
  generalize findDifferences (updateRoom peer) (.start peer.routes (peer.wanted routes)) = diff
  cases diff.add with
  | none =>
      simp only
      split_ifs
      · rfl
      · exact bgpWrite_blank (by rfl) result
  | some dest =>
      simp only
      split_ifs
      · exact bgpWrite_blank (by rfl) result
      · rfl

theorem bgpSendUpdate6_blank (same : whole.blank = peer.blank) (routes6 : List IpPrefix)
    (allocated : Bool) (result : WriteResult) :
    (bgpSendUpdate6 server routes6 allocated whole result).1.blank =
      (bgpSendUpdate6 server routes6 allocated peer result).1.blank := by
  obtain ⟨inbuf, rfl⟩ := Peer.eq_of_blank same
  have room : updateRoom6 { peer with inbuf := inbuf } = updateRoom6 peer := rfl
  have wanted : Peer.wanted { peer with inbuf := inbuf } routes6 = peer.wanted routes6 := rfl
  rw [bgpSendUpdate6, bgpSendUpdate6, room, wanted]
  dsimp only
  generalize findDifferences (updateRoom6 peer) (.start peer.routes6 (peer.wanted routes6)) = diff
  cases diff.add with
  | none =>
      by_cases nothing : diff.withdrawnLen = 0
      · simp only [nothing, ↓reduceIte]
        rfl
      · simp only [nothing, ↓reduceIte]
        exact bgpWrite_blank (by rfl) result
  | some dest =>
      by_cases found : allocated
      · simp only [found, ↓reduceIte]
        exact bgpWrite_blank (by rfl) result
      · simp only [found]
        rfl

theorem bgpProcessTimers_blank (same : whole.blank = peer.blank)
    (established : peer.state = .established) (result : WriteResult) :
    (bgpProcessTimers server whole result .noService).blank =
      (bgpProcessTimers server peer result .noService).blank := by
  obtain ⟨inbuf, rfl⟩ := Peer.eq_of_blank same
  simp only [bgpProcessTimers, established, ↓reduceIte]
  split_ifs
  · exact bgpSendNotification_blank (by simp [Peer.blank, established]) ..
  · exact bgpSendKeepalive_blank (by simp [Peer.blank, established]) result
  · simp [Peer.blank, established]

theorem Change.apply_blank (same : whole.blank = peer.blank) (change : Change) :
    (change.apply whole).blank = (change.apply peer).blank := by
  obtain ⟨inbuf, rfl⟩ := Peer.eq_of_blank same
  cases change with
  | flagRoutes | enableRouting enable =>
      simp only [Change.apply, Bgp.flagRoutes]
      split_ifs <;> rfl
  | flagRoutes6 =>
      have takes : Peer.takes6 { peer with inbuf := inbuf } = peer.takes6 := rfl
      rw [Change.apply, Change.apply, Bgp.flagRoutes6, Bgp.flagRoutes6, takes]
      split <;> rfl
  | cli flag => rfl
  | applyCli =>
      simp only [Change.apply, Bgp.applyCli, Bgp.flagRoutes]
      generalize peer.cliFlag = flag
      cases flag with
      | suspend | enable =>
          simp only
          split_ifs <;> rfl
      | none | restart => rfl

/-- How a message is handled, without the input buffer. -/
def Handled.blank : Handled → Handled
  | .undefined => .undefined
  | .returns peer => .returns peer.blank
  | .takes peer => .takes peer.blank

theorem Handled.after_blank {first second : Handled} (same : first.blank = second.blank)
    (len len' : Nat) :
    (first.after server len).map Peer.blank = (second.after server len').map Peer.blank := by
  cases first <;> cases second <;> simp [Handled.blank] at same
  · rfl
  · simpa [Handled.after] using same
  · exact congrArg some (congrArg (fun blank : Peer =>
      { blank with expireTime := server.timeNow + blank.hold }) same)

/-- Two buffers start with the same message. -/
structure SameMessage (first second : Inbuf) : Prop where
  header : bgpHeaderSize ≤ second.len
  fits : second.len ≤ bgpMaxPacketSize
  arrived : second.len ≤ first.done ∧ second.len ≤ second.done
  bytes : ∀ i < second.len, first.bytes i = second.bytes i
  codes : second.type = bgpMsgNotification → second.len ≠ bgpHeaderSize + 1

namespace SameMessage

variable {first second : Inbuf} (message : SameMessage first second)

include message

theorem len : first.len = second.len := by
  have header : 19 ≤ second.len := message.header
  simp only [Inbuf.len, Inbuf.short] at header ⊢
  rw [message.bytes 16 (by simp only [Inbuf.len, Inbuf.short]; omega),
    message.bytes 17 (by simp only [Inbuf.len, Inbuf.short]; omega)]

theorem byte {i : Nat} (header : i < 19) : first.bytes i = second.bytes i :=
  message.bytes i (Nat.lt_of_lt_of_le header message.header)

theorem type : first.type = second.type := by
  rw [Inbuf.type, Inbuf.type, message.byte (by omega)]

theorem marked : first.marked = second.marked := by
  rw [Inbuf.marked, Inbuf.marked, List.all_eq, List.all_eq]
  simp only [List.mem_range]
  congr! 3 with i small
  rw [message.byte (Nat.lt_trans small (by decide))]

theorem openData (stack : Nat → UInt8) :
    Bgp.openData first.bytes stack second.len = Bgp.openData second.bytes stack second.len := by
  funext i
  rw [Bgp.openData, Bgp.openData]
  split_ifs with inside
  · exact message.bytes _ (by omega)
  · rfl

end SameMessage

theorem refuse_blank (same : whole.blank = peer.blank) (code subcode : Nat)
    (result : WriteResult) :
    (refuse server whole code subcode result).blank =
      (refuse server peer code subcode result).blank :=
  congrArg Handled.returns (bgpSendNotification_blank same code subcode result)

theorem negotiate_blank (same : whole.blank = peer.blank) (data : Nat → UInt8)
    (result : WriteResult) :
    (negotiate server whole data result).blank = (negotiate server peer data result).blank := by
  obtain ⟨inbuf, rfl⟩ := Peer.eq_of_blank same
  simp only [negotiate]
  generalize scanParams data (data 9).toNat peer.mpHandling 0 = scanned
  obtain ⟨handling, subcode | subcode⟩ := scanned
  · exact congrArg Handled.takes (bgpSendKeepalive_blank (by rfl) result)
  · exact refuse_blank (by rfl) ..

theorem handleOpen_blank (same : whole.blank = peer.blank)
    (message : SameMessage whole.inbuf peer.inbuf) (stack : Nat → UInt8) (result : WriteResult) :
    (handleOpen server whole stack result).blank = (handleOpen server peer stack result).blank := by
  have refused (code subcode : Nat) := @refuse_blank server peer whole same code subcode result
  have state : whole.state = peer.state := (congrArg Peer.state same :)
  have as : whole.as = peer.as := (congrArg Peer.as same :)
  simp only [handleOpen, message.len, message.marked, message.openData, state, as]
  generalize openData peer.inbuf.bytes stack peer.inbuf.len = data
  split_ifs
  · exact refused ..
  · rfl
  · exact refused ..
  · exact refused ..
  · exact refused ..
  · exact negotiate_blank same data result
  · exact refused ..

theorem handleNotification_blank (same : whole.blank = peer.blank)
    (message : SameMessage whole.inbuf peer.inbuf)
    (type : peer.inbuf.type = bgpMsgNotification) :
    (handleNotification server whole).blank = (handleNotification server peer).blank := by
  have changed (handling : MpHandling) : Peer.blank { whole with mpHandling := handling } =
      Peer.blank { peer with mpHandling := handling } :=
    congrArg (fun blank : Peer => { blank with mpHandling := handling }) same
  simp only [handleNotification, message.len]
  by_cases bare : peer.inbuf.len ≤ bgpHeaderSize
  · simp only [bare, ↓reduceIte]
    exact congrArg Handled.takes same
  have codes := message.codes type
  have first : whole.inbuf.bytes bgpHeaderSize = peer.inbuf.bytes bgpHeaderSize :=
    message.bytes _ (by omega)
  have second : whole.inbuf.bytes (bgpHeaderSize + 1) = peer.inbuf.bytes (bgpHeaderSize + 1) :=
    message.bytes _ (by omega)
  simp only [bare, ↓reduceIte, first, second]
  split_ifs
  · exact congrArg Handled.returns (bgpSetRetry_blank same)
  · exact congrArg Handled.returns (bgpSetRetry_blank (changed _))
  · exact congrArg Handled.takes (changed _)
  · exact congrArg Handled.takes same

theorem handleKeepalive_blank (same : whole.blank = peer.blank) :
    (handleKeepalive server whole).blank = (handleKeepalive server peer).blank := by
  obtain ⟨inbuf, rfl⟩ := Peer.eq_of_blank same
  simp only [handleKeepalive]
  split_ifs <;> rfl

/-- A message is handled in the same way wherever it is followed by other bytes. -/
theorem bgpHandleInput_blank (same : whole.blank = peer.blank)
    (message : SameMessage whole.inbuf peer.inbuf) (stack : Nat → UInt8) (result : WriteResult) :
    (bgpHandleInput server whole stack result).map Peer.blank =
      (bgpHandleInput server peer stack result).map Peer.blank := by
  have fits : whole.inbuf.len ≤ bgpMaxPacketSize := by
    rw [message.len]
    exact message.fits
  have arrived : whole.inbuf.len ≤ whole.inbuf.done := by
    rw [message.len]
    exact message.arrived.1
  rw [bgpHandleInput_received fits arrived,
    bgpHandleInput_received message.fits message.arrived.2]
  apply Handled.after_blank
  simp only [handleMessage, message.type]
  split_ifs with _ _ notification
  · exact handleOpen_blank same message stack result
  · exact congrArg Handled.takes (handleKeepalive_blank same)
  · exact handleNotification_blank same message notification
  · exact congrArg Handled.takes same

theorem Action.run_blank (same : whole.blank = peer.blank) {action : Action}
    (enabled : action.Enabled server peer) (other : ∀ stack, action ≠ .handle stack)
    (result : WriteResult) :
    (action.run server whole result).map Peer.blank =
      (action.run server peer result).map Peer.blank := by
  cases action with
  | write => exact congrArg some (bgpWrite_blank same result)
  | handle stack => exact absurd rfl (other stack)
  | update routes allocated => exact congrArg some (bgpSendUpdate_blank same ..)
  | update6 routes6 allocated => exact congrArg some (bgpSendUpdate6_blank same ..)
  | timers => exact congrArg some (bgpProcessTimers_blank same enabled.1 result)
  | stop => exact congrArg some (bgpSendNotification_blank same ..)

end Blank

/-- The same connection, whatever is in the input buffers. -/
structure Alike (line whole : Line) : Prop where
  server : whole.server = line.server
  peer : whole.peer.blank = line.peer.blank
  packet : whole.packet = line.packet
  queued : whole.queued = line.queued
  sent : whole.sent = line.sent
  processed : whole.processed = line.processed

/-- The same connection with whole messages, where nothing is read ahead. -/
def Mirrored (messages : List (List UInt8)) (line : Line) : Prop :=
  ∃ whole, (streamSystem messages).ReachableUnder (WholeTransfers messages) whole ∧
    Alike line whole ∧ whole.peer.inbuf.done = 0

variable {whole : Line}

theorem kept_whole (wellFormed : ∀ m ∈ messages, WellFormed m)
    (reached : (streamSystem messages).ReachableUnder (WholeTransfers messages) whole) :
    Kept messages whole :=
  reached.invariant (fun _ => kept_initial) fun _ _ _ kept sound leads =>
    kept_step wellFormed kept sound.1 leads

/-- An action has the same effect on the same connection. -/
theorem Acts.alike (acts : Acts line action result bytes next) (alike : Alike line whole)
    (enabled : action.Enabled whole.server whole.peer)
    (message : action.message whole.peer = action.message line.peer)
    (run : ∀ result, (action.run line.server whole.peer result).map Peer.blank =
      (action.run line.server line.peer result).map Peer.blank) :
    ∃ after, Acts whole action result bytes after ∧ Alike next after := by
  obtain ⟨server, blank, packet, queued, sent, processed⟩ := alike
  obtain ⟨connected, -, prepared, after, again, ran, possible, address, rfl⟩ := acts
  have state : whole.peer.state = line.peer.state := (congrArg Peer.state blank :)
  have prepares := run .again
  have ends := run result
  rw [again, Option.map_some, Option.map_eq_some_iff] at prepares
  rw [ran, Option.map_some, Option.map_eq_some_iff] at ends
  obtain ⟨prepared', again', prepares⟩ := prepares
  obtain ⟨after', ran', ends⟩ := ends
  have outbuf : prepared'.outbuf = prepared.outbuf := (congrArg Peer.outbuf prepares :)
  refine ⟨_, ⟨?_, enabled, prepared', after', server ▸ again', server ▸ ran', outbuf ▸ possible, ?_,
    rfl⟩, server, ends, ?_, ?_, ?_, ?_⟩
  · rwa [Peer.Connected, state]
  · rwa [outbuf, packet]
  · simp only [packet]
  · simp only [queued, outbuf]
  · simp only [sent]
  · simp only [processed, message]

theorem Mirrored.of_acts (wellFormed : ∀ m ∈ messages, WellFormed m)
    (acts : Acts line action result bytes next) (sound : Sound line (.act action result bytes))
    (reached : (streamSystem messages).ReachableUnder (WholeTransfers messages) whole)
    (alike : Alike line whole) (enabled : action.Enabled whole.server whole.peer)
    (message : action.message whole.peer = action.message line.peer)
    (run : ∀ result, (action.run line.server whole.peer result).map Peer.blank =
      (action.run line.server line.peer result).map Peer.blank)
    (taken : whole.peer.inbuf.done = action.consumes whole.peer) : Mirrored messages next := by
  obtain ⟨after, same, alike'⟩ := acts.alike alike enabled message run
  have output : whole.peer.outbuf = line.peer.outbuf := (congrArg Peer.outbuf alike.peer :)
  have soundWhole : Sound whole (.act action result bytes) := by
    refine ⟨fun prepared again => ?_, ?_⟩
    · have prepares := run .again
      rw [← alike.server, again, Option.map_some, eq_comm, Option.map_eq_some_iff] at prepares
      obtain ⟨prepared', again', prepares⟩ := prepares
      have outbuf : prepared'.outbuf = prepared.outbuf := (congrArg Peer.outbuf prepares :)
      exact outbuf ▸ sound.1 prepared' (alike.server ▸ again')
    · cases action with
      | handle stack => exact Nat.le_of_eq taken.symm
      | timers | stop => exact output ▸ sound.2
      | _ => trivial
  have advances := (kept_whole wellFormed reached).act_advances wellFormed same.1 enabled soundWhole
  have empty : after.peer.inbuf.done = 0 := by
    obtain ⟨-, -, prepared, last, again, ran, -, -, rfl⟩ := same
    have left := advances.proceeds.input_le again (soundWhole.1 prepared again) ran
    simp only
    omega
  exact ⟨after, .step (.act action result bytes) reached ⟨soundWhole, nofun⟩ same, alike', empty⟩

theorem Action.enabled_blank {whole : Peer} (same : whole.blank = peer.blank)
    (enabled : action.Enabled server peer) (other : ∀ stack, action ≠ .handle stack) :
    action.Enabled server whole := by
  obtain ⟨inbuf, rfl⟩ := Peer.eq_of_blank same
  cases action with
  | handle stack => exact absurd rfl (other stack)
  | _ => exact enabled

theorem Mirrored.act_other (wellFormed : ∀ m ∈ messages, WellFormed m)
    (acts : Acts line action result bytes next)
    (sound : Sound line (.act action result bytes)) (other : ∀ stack, action ≠ .handle stack)
    (mirrored : Mirrored messages line) : Mirrored messages next := by
  obtain ⟨whole, reached, alike, input⟩ := mirrored
  have enabled := acts.2.1
  refine .of_acts wellFormed acts sound reached alike ?_ ?_
    (Action.run_blank alike.peer enabled other) ?_
  · rw [alike.server]
    exact Action.enabled_blank alike.peer enabled other
  · cases action with
    | handle stack => exact absurd rfl (other stack)
    | _ => rfl
  · cases action with
    | handle stack => exact absurd rfl (other stack)
    | _ => exact input

theorem SameMessage.of_front {first second : Inbuf} {message : List UInt8}
    (formed : WellFormed message) (front : second.received.take second.len = message)
    (size : message.length = second.len) (received : first.received = message)
    (arrived : second.len ≤ second.done) : SameMessage first second := by
  have done : first.done = message.length := by
    rw [← received, Inbuf.received_length]
  refine ⟨size ▸ formed.frame.header, size ▸ formed.most, ⟨by omega, arrived⟩, ?_, ?_⟩
  · intro i inside
    rw [← Inbuf.received_getD _ (by omega), ← Inbuf.received_getD _ (by omega), received, ← front,
      List.getD_eq_getElem?_getD, List.getElem?_take_of_lt inside, List.getD_eq_getElem?_getD]
  · intro type
    rw [← size]
    refine formed.codes ?_
    have header : 19 ≤ message.length := formed.frame.header
    rw [← front, List.getD_eq_getElem?_getD, List.getElem?_take_of_lt (by omega),
      ← List.getD_eq_getElem?_getD, Inbuf.received_getD _ (by omega)]
    exact type

/-- The message that is next to be processed can be read as a whole. -/
theorem Alike.read (wellFormed : ∀ m ∈ messages, WellFormed m) (alike : Alike line whole)
    (reached : (streamSystem messages).ReachableUnder (WholeTransfers messages) whole)
    (input : whole.peer.inbuf.done = 0) (connected : line.peer.Connected)
    (listening : line.peer.Listening) {message : List UInt8} {rest : List (List UInt8)}
    (split : line.processed ++ message :: rest = messages) :
    ∃ read, (streamSystem messages).ReachableUnder (WholeTransfers messages) read ∧
      Alike line read ∧ read.peer.inbuf.received = message := by
  have member : message ∈ messages := by
    rw [← split]
    simp
  have formed := wellFormed message member
  have unread : whole.unread = message ++ rest.flatten := by
    obtain ⟨rest', split', stream⟩ := (kept_whole wellFormed reached).processed
    have nextState : whole.peer.nextState = line.peer.nextState :=
      (congrArg Peer.nextState alike.peer :)
    have others : rest' = message :: rest :=
      List.append_cancel_left ((alike.processed ▸ split').trans split.symm)
    have bytes := stream (by rwa [Peer.Listening, nextState])
    rw [others, Inbuf.received_empty input, List.nil_append] at bytes
    exact bytes.symm
  have state : whole.peer.state = line.peer.state := (congrArg Peer.state alike.peer :)
  refine ⟨{ whole with
    peer := (bgpRead whole.server whole.peer (.read message)).1
    unread := rest.flatten
    inside := whole.inside && whole.peer.inbuf.done = 0 }, ?_, ?_,
    @bgpRead_received whole.server whole.peer message input⟩
  · refine .step (.read message) reached ⟨input, ?_⟩ ⟨?_, ?_, ?_, rest.flatten, unread, rfl⟩
    · rintro chunk same
      obtain rfl := Transfer.read.inj same
      exact member
    · rwa [Peer.Connected, state]
    · rintro rfl
      exact absurd formed.frame.header (by decide)
    · rw [input]
      exact formed.most
  · exact ⟨alike.server, alike.peer, alike.packet, alike.queued, alike.sent, alike.processed⟩

/-- A message is read at once, and handled. -/
theorem Mirrored.act_handle (wellFormed : ∀ m ∈ messages, WellFormed m) (kept : Kept messages line)
    (acts : Acts line (.handle stack) result bytes next)
    (sound : Sound line (.act (.handle stack) result bytes))
    (mirrored : Mirrored messages line) : Mirrored messages next := by
  obtain ⟨whole, reached, alike, input⟩ := mirrored
  have ⟨connected, enabled, _⟩ := acts
  have arrived : line.peer.inbuf.len ≤ line.peer.inbuf.done := sound.2
  obtain ⟨rest, split, -⟩ := kept.arrived wellFormed connected enabled arrived
  generalize front : line.peer.inbuf.received.take line.peer.inbuf.len = message at split
  have formed := wellFormed message (by simp [← split])
  have size : message.length = line.peer.inbuf.len := by
    rw [← front, List.length_take, Inbuf.received_length]
    omega
  obtain ⟨read, reachedRead, alikeRead, received⟩ := alike.read wellFormed reached input connected
    (kept.idle connected enabled.2).listening split
  have output : read.peer.outbuf = line.peer.outbuf := (congrArg Peer.outbuf alikeRead.peer :)
  have done : read.peer.inbuf.done = message.length := by
    rw [← received, Inbuf.received_length]
  have both : SameMessage read.peer.inbuf line.peer.inbuf :=
    .of_front formed front size received arrived
  refine .of_acts wellFormed acts sound reachedRead alikeRead ⟨?_, ?_⟩ ?_
    (bgpHandleInput_blank alikeRead.peer both stack) ?_
  · rw [done]
    exact formed.frame.header
  · exact (congrArg Outbuf.len output).trans enabled.2
  · have fits : line.peer.inbuf.len ≤ bgpMaxPacketSize := size ▸ formed.most
    simp only [Action.message, both.len, fits, arrived, done, size, le_refl, and_self, ↓reduceIte,
      received, front]
    rw [List.take_of_length_le (Nat.le_of_eq size)]
  · rw [done, size, Action.consumes, both.len]

theorem Mirrored.step (wellFormed : ∀ m ∈ messages, WellFormed m) (kept : Kept messages line)
    {transfer : Transfer} (sound : Sound line transfer) (leads : transfer.Leads line next)
    (mirrored : Mirrored messages line) : Mirrored messages next := by
  cases transfer with
  | act action result bytes =>
      by_cases handles : ∃ stack, action = .handle stack
      · obtain ⟨stack, rfl⟩ := handles
        exact .act_handle wellFormed kept leads sound mirrored
      · exact .act_other wellFormed leads sound (fun stack same => handles ⟨stack, same⟩) mirrored
  | read chunk =>
      -- what is read ahead is not there in the other connection
      obtain ⟨-, -, -, rest, -, rfl⟩ := leads
      obtain ⟨whole, reached, alike, input⟩ := mirrored
      exact ⟨whole, reached, ⟨alike.server, alike.peer, alike.packet, alike.queued, alike.sent,
        alike.processed⟩, input⟩
  | close =>
      obtain ⟨connected, rfl⟩ := leads
      obtain ⟨whole, reached, alike, input⟩ := mirrored
      have state : whole.peer.state = line.peer.state := (congrArg Peer.state alike.peer :)
      have connected : whole.peer.Connected := by rwa [Peer.Connected, state]
      refine ⟨_, .step .close reached ⟨trivial, nofun⟩ ⟨connected, rfl⟩, ⟨alike.server, ?_,
        alike.packet, alike.queued, alike.sent, alike.processed⟩, bgpSetRetry_done⟩
      simp only [alike.server]
      exact bgpSetRetry_blank alike.peer
  | change request =>
      obtain rfl := leads
      obtain ⟨whole, reached, alike, input⟩ := mirrored
      refine ⟨_, .step (.change request) reached ⟨trivial, nofun⟩ rfl, ⟨alike.server,
        request.apply_blank alike.peer, alike.packet, alike.queued, alike.sent,
        alike.processed⟩, ?_⟩
      obtain ⟨_, _, _, _, same⟩ := request.apply_eq whole.peer
      simpa [same] using input
  | tick timeNow =>
      obtain rfl := leads
      obtain ⟨whole, reached, alike, input⟩ := mirrored
      refine ⟨_, .step (.tick timeNow) reached ⟨trivial, nofun⟩ rfl, ⟨?_, alike.peer, alike.packet,
        alike.queued, alike.sent, alike.processed⟩, input⟩
      simp only [alike.server]

theorem kept_mirrored (wellFormed : ∀ m ∈ messages, WellFormed m)
    (reached : (streamSystem messages).ReachableUnder Sound line) :
    Kept messages line ∧ Mirrored messages line := by
  induction reached with
  | initial start =>
      obtain ⟨fresh, packet, begins, size, same⟩ := id start
      refine ⟨kept_initial start, _, .initial start, ⟨rfl, rfl, rfl, rfl, rfl, rfl⟩, ?_⟩
      rw [same]
      exact begins.input
  | step transfer _ sound leads ih =>
      exact ⟨kept_step wellFormed ih.1 sound leads, ih.2.step wellFormed ih.1 sound leads⟩

/-- **The streams do not depend on their segmentation**, as long as each read finds an empty
buffer, each message that is processed has arrived as a whole, and each write takes a whole
message. -/
theorem streams_unsegmented {messages : List (List UInt8)}
    (wellFormed : ∀ m ∈ messages, WellFormed m) {line : Line}
    (reached : (streamSystem messages).ReachableUnder Sound line) : Unsegmented messages line := by
  obtain ⟨kept, whole, reached, alike, input⟩ := kept_mirrored wellFormed reached
  exact ⟨kept.inside, kept.processed, kept.sent, whole, reached, alike.peer, input,
    alike.processed, alike.queued, alike.sent⟩

def keepaliveBytes : List UInt8 := List.replicate 16 0xff ++ [0, 19, 4]

theorem keepaliveBytes_wellFormed : ∀ m ∈ [keepaliveBytes], WellFormed m := by
  simp only [List.mem_singleton, forall_eq]
  exact ⟨⟨by decide, rfl⟩, by decide, by decide⟩

/-- A peer on a connection that was made. -/
def activePeer : Peer := { Peer.zero with state := .active }

/-- A connection to a peer that sends a KEEPALIVE. -/
def openedLine : Line where
  server := ⟨0, 0, 0, false⟩
  peer := (bgpSendOpen ⟨0, 0, 0, false⟩ activePeer .again).1
  packet := List.replicate 29 0
  queued := [List.replicate 29 0]
  sent := []
  unread := keepaliveBytes
  processed := []
  inside := true

theorem openedLine_initial : (streamSystem [keepaliveBytes]).initial openedLine :=
  ⟨activePeer, List.replicate 29 0,
    ⟨rfl, rfl, rfl, rfl, Nat.zero_le _, Nat.zero_le _⟩, rfl, by
      simp [openedLine]⟩

/-- The connection with some of the KEEPALIVE read. -/
def readLine (line : Line) (chunk rest : List UInt8) : Line :=
  { line with
    peer := (bgpRead line.server line.peer (.read chunk)).1
    unread := rest
    inside := line.inside && line.peer.inbuf.done = 0 }

/-- The KEEPALIVE is read at once. -/
theorem streams_unsegmented_keepalive :
    Unsegmented [keepaliveBytes] (readLine openedLine keepaliveBytes []) :=
  streams_unsegmented keepaliveBytes_wellFormed
    (.step (.read keepaliveBytes) (.initial openedLine_initial) rfl
      ⟨⟨nofun, nofun⟩, by simp [keepaliveBytes], by decide, [], by simp [openedLine], rfl⟩)

/-- The rest of a KEEPALIVE is read to an address far behind the buffer, if its first byte came
alone. -/
theorem streams_split : ¬ ∀ messages line, (∀ m ∈ messages, WellFormed m) →
    (streamSystem messages).Reachable line → Unsegmented messages line := by
  intro every
  have first : (streamSystem [keepaliveBytes]).Reachable
      (readLine openedLine [0xff] (keepaliveBytes.drop 1)) :=
    .step (.read [0xff]) (.initial openedLine_initial) trivial
      ⟨⟨nofun, nofun⟩, by simp, by decide, keepaliveBytes.drop 1, rfl, rfl⟩
  have second : (streamSystem [keepaliveBytes]).Reachable
      (readLine (readLine openedLine [0xff] (keepaliveBytes.drop 1)) (keepaliveBytes.drop 1) []) :=
    .step (.read (keepaliveBytes.drop 1)) first trivial
      ⟨⟨nofun, nofun⟩, by simp [keepaliveBytes], by decide, [], by simp [readLine], rfl⟩
  have inside := (every _ _ keepaliveBytes_wellFormed second).inside
  exact absurd inside (by decide)

end L2tpns.Bgp
