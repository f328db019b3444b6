import L2tpns.Bgp.Process

/-! # Peers know the routes that are wanted

An established peer knows the routes that are wanted unless its flag for updates is set. For
IPv4 that holds in every run in which memory for routes is found. The flag for IPv6 is not set
when a connection is established, nor when routing is enabled or suspended, so for IPv6 it
holds if nothing is to be changed then, or the flag is set already
(`L2tpns.Bgp.peers_converge`).
-/

namespace L2tpns.Bgp

open Foundation

/-- The routes are the wanted ones, unless an update is due. -/
structure Knowledge.Agrees (known : Knowledge) (routes routes6 : List IpPrefix) : Prop where
  routes : known.updateRoutes = false → known.routes.Perm (if known.routing then routes else [])
  routes6 : known.handles6 = true → known.updateRoutes6 = false →
    known.routes6.Perm (if known.routing then routes6 else [])

/-- An established peer knows what is wanted, unless an update is due. -/
def Peer.Converged (peer : Peer) (routes routes6 : List IpPrefix) : Prop :=
  peer.state = .established → peer.knowledge.Agrees routes routes6

/-- The invariant of a run. -/
structure Peer.Sound (peer : Peer) (routes routes6 : List IpPrefix) : Prop where
  settled : peer.Settled
  converged : peer.Converged routes routes6

variable {server : Server} {peer after : Peer} {result : WriteResult}
  {routes routes6 : List IpPrefix}

theorem Carries.sound (carries : Carries peer after) (sound : peer.Sound routes routes6) :
    after.Sound routes routes6 := by
  refine ⟨carries.settled sound.settled, fun established => ?_⟩
  obtain ⟨state, same⟩ := carries.kept sound.settled established
  rw [same]
  exact sound.converged state

theorem Peer.Settled.of_same (settled : peer.Settled) (state : after.state = peer.state)
    (nextState : after.nextState = peer.nextState) : after.Settled := by
  refine ⟨?_, ?_⟩
  · rw [state, nextState]
    exact settled.arrived
  · rw [state, nextState]
    exact settled.leaves

/-- A change of `routing` leaves the IPv6 routes for the peer as they are, or they are updated
anyway. -/
def Peer.Steady6 (peer : Peer) (routing : Bool) (routes6 : List IpPrefix) : Prop :=
  peer.takes6 = true → peer.updateRoutes6 = true ∨ routing = peer.routing ∨ routes6 = []

/-- The message at the front of the buffer establishes the connection. -/
structure Peer.Establishes (peer : Peer) : Prop where
  state : peer.state = .openConfirm
  input : peer.HasInput
  type : peer.inbuf.type = bgpMsgKeepalive
  fits : peer.inbuf.len ≤ bgpMaxPacketSize
  received : peer.inbuf.len ≤ peer.inbuf.done

/-- The IPv6 routes that were sent to the peer, none usually, are the wanted ones, or they are
updated anyway. -/
def Peer.Clean6 (peer : Peer) (routes6 : List IpPrefix) : Prop :=
  peer.mpHandling = .handleIpv6Routes →
    peer.updateRoutes6 = true ∨ peer.routes6.Perm (peer.wanted routes6)

/-- What `applyCli` makes of `routing`. -/
def Peer.cliRouting (peer : Peer) : Bool :=
  match peer.cliFlag with
  | .suspend => false
  | .enable => true
  | _ => peer.routing

/-- The peer, and whether the round goes on, when its input is processed. -/
def bufferedPeer (speaker : Speaker) (round : Round) (peer : Peer) : Peer × Bool :=
  processBuffers speaker round (if peer.cliFlag = .none then peer else applyCli peer)

/-- A round over a peer that is neither restarted nor disabled. Memory for routes is found, and
IPv6 routes are not to change without the flag. -/
structure Round.Keeps (speaker : Speaker) (round : Round) (peer : Peer) : Prop where
  allocated : round.allocated = true
  allocated6 : round.allocated6 = true
  cli : peer.Steady6 peer.cliRouting speaker.routes6
  input : (bufferedPeer speaker round peer).2 = true → ∀ state,
    (inputLoop ⟨speaker.server, round.stack, round.answered⟩).Reaches
      ⟨(bufferedPeer speaker round peer).1, 0⟩ state →
    state.peer.Establishes → state.peer.Clean6 speaker.routes6

/-- An event does not change the IPv6 routes for a peer without the flag. -/
def Event.Keeps (speaker : Speaker) : Event → Prop
  | .enableRouting enable => ∀ i, (speaker.peer i).Steady6 enable speaker.routes6
  | .process rounds => ∀ i, speaker.configured ∧ i < 2 →
      ¬ ((speaker.peer i).name ≠ "" ∧ (speaker.peer i).cliFlag = .restart) →
      (speaker.peer i).state ≠ .disabled → (rounds i).Keeps speaker (speaker.peer i)
  | _ => True

theorem flagRoutes_sound {changed : List IpPrefix} (sound : peer.Settled)
    (kept : peer.takes6 = true → peer.updateRoutes6 = false →
      peer.routes6.Perm (peer.wanted routes6)) :
    (flagRoutes peer).Sound changed routes6 := by
  rw [flagRoutes]
  by_cases established : peer.state = .established
  · rw [if_pos established]
    refine ⟨sound.of_same rfl rfl, fun _ => ⟨nofun, fun handles due => ?_⟩⟩
    refine kept ?_ due
    rw [Peer.takes6, established]
    exact handles
  · rw [if_neg established]
    exact ⟨sound, fun state => absurd state established⟩

theorem Peer.Sound.known6 (sound : peer.Sound routes routes6) (takes : peer.takes6 = true)
    (due : peer.updateRoutes6 = false) : peer.routes6.Perm (peer.wanted routes6) := by
  rw [Peer.takes6, Bool.and_eq_true, decide_eq_true_eq] at takes
  exact (sound.converged takes.1).routes6 takes.2 due

theorem flagRoutes6_sound {changed : List IpPrefix} (sound : peer.Sound routes routes6) :
    (flagRoutes6 peer).Sound routes changed := by
  rw [flagRoutes6]
  by_cases takes : peer.takes6 = true
  · rw [if_pos takes]
    refine ⟨sound.settled.of_same rfl rfl, fun state => ⟨?_, fun _ => nofun⟩⟩
    exact (sound.converged state).routes
  · rw [if_neg takes]
    refine ⟨sound.settled, fun state => ⟨(sound.converged state).routes, fun handles => ?_⟩⟩
    refine absurd ?_ takes
    rw [Peer.takes6, state]
    exact handles

theorem routing_sound {routing : Bool} (sound : peer.Sound routes routes6)
    (steady : peer.Steady6 routing routes6) :
    (flagRoutes { peer with routing := routing }).Sound routes routes6 := by
  refine flagRoutes_sound (sound.settled.of_same rfl rfl) fun takes due => ?_
  have known := sound.known6 takes due
  rcases steady takes with flagged | same | nothing
  · exact absurd (flagged.symm.trans due) nofun
  · rw [same]
    exact known
  · rw [nothing, Peer.wanted, ite_self] at known ⊢
    exact known

theorem applyCli_sound (sound : peer.Sound routes routes6)
    (steady : peer.Steady6 peer.cliRouting routes6) : (applyCli peer).Sound routes routes6 := by
  have unflag : ∀ changed : Peer, changed.Sound routes routes6 →
      Peer.Sound { changed with cliFlag := .none } routes routes6 := by
    intro changed holds
    have carries : Carries changed { changed with cliFlag := .none } :=
      .of_same rfl (.inl rfl) rfl
    exact carries.sound holds
  rw [applyCli]
  refine unflag _ ?_
  rw [Peer.cliRouting] at steady
  split
  · rename_i flag
    rw [flag] at steady
    split
    · exact routing_sound sound steady
    · exact sound
  · rename_i flag
    rw [flag] at steady
    split
    · exact sound
    · exact routing_sound sound steady
  · exact sound

/-- What holds of the peer that a case leaves. -/
def Handled.All (property : Peer → Prop) : Handled → Prop
  | .undefined => True
  | .returns handled => property handled
  | .takes handled => property handled

theorem refuse_carries {changed : Peer} (carries : Carries peer changed) (code subcode : Nat) :
    (refuse server changed code subcode result).All (Carries peer) :=
  carries.trans (bgpSendNotification_carries code subcode)

theorem negotiate_carries (apart : peer.state ≠ .established) (data : Nat → UInt8) :
    (negotiate server peer data result).All (Carries peer) := by
  simp only [negotiate]
  split
  · refine refuse_carries ?_ _ _
    exact .of_apart apart apart id
  · refine Carries.trans ?_ bgpSendKeepalive_carries
    exact .of_apart apart apart id

theorem handleOpen_carries {stack : Nat → UInt8} :
    (handleOpen server peer stack result).All (Carries peer) := by
  by_cases refused : peer.inbuf.marked = false ∨ peer.state ≠ .openSent
  · obtain ⟨code, subcode, refuses⟩ := @handleOpen_refused server peer stack result refused
    rw [refuses]
    exact refuse_carries (.refl peer) code subcode
  rw [not_or, not_not] at refused
  rw [handleOpen]
  dsimp only
  rw [if_neg (not_not.mpr (Bool.eq_true_of_not_eq_false refused.1)),
    if_neg (not_not.mpr refused.2)]
  split
  · exact trivial
  split
  · exact refuse_carries (.refl peer) _ _
  split
  · exact refuse_carries (.refl peer) _ _
  split
  · exact refuse_carries (.refl peer) _ _
  · refine negotiate_carries ?_ _
    rw [refused.2]
    simp

theorem doesntHandle_sound (sound : peer.Sound routes routes6) :
    Peer.Sound { peer with mpHandling := .doesntHandleIpv6Routes } routes routes6 := by
  refine ⟨sound.settled.of_same rfl rfl, fun state => ⟨?_, nofun⟩⟩
  exact (sound.converged state).routes

theorem handleNotification_sound (sound : peer.Sound routes routes6) :
    (handleNotification server peer).All fun handled => handled.Sound routes routes6 := by
  have retries : ∀ failed : Peer, (bgpSetRetry server failed).Sound routes routes6 := fun failed =>
    Carries.sound (.of_dropped bgpSetRetry_dropped) sound
  simp only [handleNotification]
  split_ifs
  · exact sound
  · exact retries _
  · exact retries _
  · exact doesntHandle_sound sound
  · exact sound

theorem handleKeepalive_sound (sound : peer.Sound routes routes6)
    (clean : peer.state = .openConfirm → peer.Clean6 routes6) :
    (handleKeepalive server peer).Sound routes routes6 := by
  rw [handleKeepalive]
  by_cases confirmed : peer.state = .openConfirm
  · rw [if_pos confirmed]
    refine ⟨⟨fun _ => rfl, fun _ => .inl rfl⟩, fun _ =>
      ⟨fun due => Bool.noConfusion due, fun handles due => ?_⟩⟩
    have handles : peer.mpHandling = .handleIpv6Routes := of_decide_eq_true handles
    rcases clean confirmed handles with flagged | known
    · cases flagged.symm.trans due
    · exact known
  · rw [if_neg confirmed]
    exact sound

theorem Handled.All.mono {property other : Peer → Prop} {handled : Handled}
    (holds : handled.All property) (implied : ∀ peer, property peer → other peer) :
    handled.All other := by
  cases handled with
  | undefined => exact trivial
  | returns handled | takes handled => exact implied _ holds

theorem handleMessage_sound {stack : Nat → UInt8} (sound : peer.Sound routes routes6)
    (clean : peer.inbuf.type = bgpMsgKeepalive → peer.state = .openConfirm → peer.Clean6 routes6) :
    (handleMessage server peer stack result).All fun handled => handled.Sound routes routes6 := by
  rw [handleMessage]
  split_ifs with isOpen isKeepalive
  · exact handleOpen_carries.mono fun handled carries => carries.sound sound
  · exact handleKeepalive_sound sound (clean isKeepalive)
  · exact handleNotification_sound sound
  · exact sound

theorem bgpHandleInput_sound {stack : Nat → UInt8} (sound : peer.Sound routes routes6)
    (input : peer.HasInput) (clean : peer.Establishes → peer.Clean6 routes6)
    (handles : bgpHandleInput server peer stack result = some after) :
    after.Sound routes routes6 := by
  by_cases oversize : bgpMaxPacketSize < peer.inbuf.len
  · rw [bgpHandleInput] at handles
    rw [if_pos oversize] at handles
    rw [← Option.some.inj handles]
    exact (bgpSendNotification_carries _ _).sound sound
  by_cases missing : peer.inbuf.done < peer.inbuf.len
  · rw [bgpHandleInput_incomplete (Nat.not_lt.mp oversize) missing] at handles
    exact Option.some.inj handles ▸ sound
  rw [bgpHandleInput_received (Nat.not_lt.mp oversize) (Nat.not_lt.mp missing)] at handles
  have all := @handleMessage_sound server peer result routes routes6 stack sound
    fun type state => clean ⟨state, input, type, Nat.not_lt.mp oversize, Nat.not_lt.mp missing⟩
  generalize handleMessage server peer stack result = handled at handles all
  cases handled with
  | undefined => cases handles
  | returns handled => exact Option.some.inj handles ▸ all
  | takes handled =>
      rw [← Option.some.inj handles]
      have carries : Carries handled { handled with
          expireTime := server.timeNow + handled.hold
          inbuf := handled.inbuf.consume peer.inbuf.len } := .of_same rfl (.inl rfl) rfl
      exact carries.sound all

/-- The loop over the input, if no message establishes a connection to a peer that wants IPv6
routes which are not flagged. -/
theorem inputLoop_sound {around : Surroundings} (sound : peer.Sound routes routes6)
    (clean : ∀ state, (inputLoop around).Reaches ⟨peer, 0⟩ state → state.peer.Establishes →
      state.peer.Clean6 routes6)
    (returns : (inputLoop around).Returns ⟨peer, 0⟩ (some after)) : after.Sound routes routes6 := by
  have every : ∀ state, (inputLoop around).Reaches ⟨peer, 0⟩ state →
      state.peer.Sound routes routes6 := by
    intro state reached
    induction reached with
    | refl => exact sound
    | @tail here there before moves ih =>
        simp only [WhileLoop.Continues, inputLoop] at moves
        by_cases input : here.peer.HasInput
        · rw [if_pos input] at moves
          split at moves
          · rename_i handled handles
            rw [← Sum.inr.inj moves]
            exact bgpHandleInput_sound ih input (clean here before) handles
          · cases moves
        · rw [if_neg input] at moves
          cases moves
  obtain ⟨last, reached, left⟩ := returns.last
  simp only [inputLoop] at left
  by_cases input : last.peer.HasInput
  · rw [if_pos input] at left
    split at left
    · cases left
    · cases left
  · rw [if_neg input] at left
    rw [← Option.some.inj (Sum.inl.inj left)]
    exact every last reached

theorem perm_bgpInsertRoute (known : List IpPrefix) (new : IpPrefix) :
    (bgpInsertRoute known new).Perm (known ++ [new]) :=
  (List.perm_orderedInsert _ new known).trans (List.perm_append_singleton new known).symm

/-- After an UPDATE for which memory was found no more is to be done only if the peer knows what
is wanted. -/
theorem bgpSendUpdate_sound (sound : peer.Sound routes routes6) :
    (bgpSendUpdate server routes true peer result).1.Sound routes routes6 := by
  have done := @findDifferences_done (updateRoom peer) peer.routes (peer.wanted routes)
  rw [bgpSendUpdate]
  generalize findDifferences (updateRoom peer) (.start peer.routes (peer.wanted routes)) = diff
    at done ⊢
  have updated : ∀ known out, (diff.unfinished = false → known.Perm (peer.wanted routes)) →
      Peer.Sound { peer with routes := known, updateRoutes := diff.unfinished, outbuf := out }
        routes routes6 := fun known out learnt =>
    ⟨sound.settled.of_same rfl rfl, fun state =>
      ⟨learnt, (sound.converged state).routes6⟩⟩
  dsimp only
  split
  · rename_i nothing
    rw [nothing, Option.toList_none, List.append_nil] at done
    split
    · exact updated _ peer.outbuf done
    · exact (bgpWrite_carries result).sound (updated _ _ done)
  · rename_i add found
    rw [if_pos rfl]
    refine (bgpWrite_carries result).sound (updated _ _ fun finished => ?_)
    rw [found] at done
    exact (perm_bgpInsertRoute _ add).trans (done finished)

theorem bgpSendUpdate6_sound (sound : peer.Sound routes routes6) :
    (bgpSendUpdate6 server routes6 true peer result).1.Sound routes routes6 := by
  have done := @findDifferences_done (updateRoom6 peer) peer.routes6 (peer.wanted routes6)
  rw [bgpSendUpdate6]
  generalize findDifferences (updateRoom6 peer) (.start peer.routes6 (peer.wanted routes6)) = diff
    at done ⊢
  have updated : ∀ known out, (diff.unfinished = false → known.Perm (peer.wanted routes6)) →
      Peer.Sound { peer with routes6 := known, updateRoutes6 := diff.unfinished, outbuf := out }
        routes routes6 := fun known out learnt =>
    ⟨sound.settled.of_same rfl rfl, fun state =>
      ⟨(sound.converged state).routes, fun _ => learnt⟩⟩
  dsimp only
  split
  · rename_i nothing
    rw [nothing, Option.toList_none, List.append_nil] at done
    split
    · exact updated _ peer.outbuf done
    · exact (bgpWrite_carries result).sound (updated _ _ done)
  · rename_i add found
    rw [if_pos rfl]
    refine (bgpWrite_carries result).sound (updated _ _ fun finished => ?_)
    rw [found] at done
    exact (perm_bgpInsertRoute _ add).trans (done finished)

variable {speaker : Speaker} (turn : Nat)

theorem finishRound_sound {round : Round}
    (sound : peer.Sound speaker.routes speaker.routes6) (allocated : round.allocated = true)
    (allocated6 : round.allocated6 = true) :
    (finishRound speaker round peer).Sound speaker.routes speaker.routes6 := by
  have updated : (processUpdates speaker round.allocated peer round.updated).1.Sound
      speaker.routes speaker.routes6 := by
    rw [processUpdates, allocated]
    split
    · exact bgpSendUpdate_sound sound
    · exact sound
  rw [finishRound]
  generalize processUpdates speaker round.allocated peer round.updated = first at updated ⊢
  have updated6 : (processUpdates6 speaker round.allocated6 first.1 round.updated6).1.Sound
      speaker.routes speaker.routes6 := by
    rw [processUpdates6, allocated6]
    split
    · exact bgpSendUpdate6_sound updated
    · exact updated
  dsimp only
  split
  · generalize processUpdates6 speaker round.allocated6 first.1 round.updated6 = second
      at updated6 ⊢
    split
    · exact (bgpProcessTimers_carries _ _).sound updated6
    · exact updated6
  · exact updated

theorem bufferedPeer_sound {speaker : Speaker} {round : Round}
    (sound : peer.Sound speaker.routes speaker.routes6)
    (steady : peer.Steady6 peer.cliRouting speaker.routes6) :
    (bufferedPeer speaker round peer).1.Sound speaker.routes speaker.routes6 := by
  refine (processBuffers_carries speaker round).sound ?_
  split
  · exact sound
  · exact applyCli_sound sound steady

theorem processPeer_sound {round : Round} (sound : peer.Sound speaker.routes speaker.routes6)
    (keeps : ¬ (peer.name ≠ "" ∧ peer.cliFlag = .restart) → peer.state ≠ .disabled →
      round.Keeps speaker peer) (processed : ProcessPeer speaker round peer after) :
    after.Sound speaker.routes speaker.routes6 := by
  rw [ProcessPeer] at processed
  by_cases restarts : peer.name ≠ "" ∧ peer.cliFlag = .restart
  · rw [if_pos restarts] at processed
    rw [processed]
    exact (bgpRestart_carries _).sound sound
  rw [if_neg restarts] at processed
  by_cases off : peer.state = .disabled
  · rw [if_pos off] at processed
    rw [processed]
    exact sound
  rw [if_neg off] at processed
  have keeps := keeps restarts off
  have buffered := @bufferedPeer_sound peer speaker round sound keeps.cli
  by_cases goes : (bufferedPeer speaker round peer).2 = true
  · obtain ⟨handled, returns, finished⟩ := (if_pos goes).mp processed
    rw [finished]
    have input := inputLoop_sound buffered (keeps.input goes) returns
    exact finishRound_sound input keeps.allocated keeps.allocated6
  · rw [(if_neg goes).mp processed]
    exact buffered

def Speaker.Sound (speaker : Speaker) : Prop :=
  ∀ i, (speaker.peer i).Sound speaker.routes speaker.routes6

theorem Speaker.Sound.setPeer (sound : speaker.Sound) {i : Nat}
    (carries : Carries (speaker.peer i) after) : (speaker.setPeer i after).Sound := by
  intro j
  by_cases same : j = i
  · rw [same, Speaker.setPeer]
    dsimp only
    rw [Function.update_self]
    exact carries.sound (sound i)
  · rw [Speaker.setPeer]
    dsimp only
    rw [Function.update_of_ne same]
    exact sound j

theorem bgpSystem_initial (start : bgpSystem.initial speaker) : speaker.Sound := by
  rw [start]
  exact fun i => ⟨⟨nofun, nofun⟩, nofun⟩

theorem flagged_sound (sound : speaker.Sound) (changed : List IpPrefix) :
    Speaker.Sound
      { speaker with routes := changed, peer := fun i => flagRoutes (speaker.peer i) } :=
  fun i => flagRoutes_sound (sound i).settled (sound i).known6

theorem flagged6_sound (sound : speaker.Sound) (changed : List IpPrefix) :
    Speaker.Sound
      { speaker with routes6 := changed, peer := fun i => flagRoutes6 (speaker.peer i) } :=
  fun i => flagRoutes6_sound (sound i)

theorem bgpProcess_sound {next : Speaker} {rounds : Nat → Round} (sound : speaker.Sound)
    (keeps : Event.Keeps speaker (.process rounds)) (processed : BgpProcess speaker rounds next) :
    next.Sound := by
  intro i
  rw [processed.routes, processed.routes6]
  have peer := processed.peers i
  by_cases goes : speaker.configured ∧ i < 2
  · rw [if_pos goes] at peer
    exact processPeer_sound (sound i) (keeps i goes) peer
  · rw [if_neg goes] at peer
    rw [peer]
    exact sound i

theorem bgpSystem_step {next : Speaker} {event : Event} (sound : speaker.Sound)
    (keeps : event.Keeps speaker) (leads : event.Leads speaker next) : next.Sound := by
  cases event with
  | addRoute dest allocated =>
      rw [leads, bgpAddRoute]
      split_ifs
      · exact sound
      · exact flagged_sound sound _
      · exact sound
  | addRoute6 dest allocated =>
      rw [leads, bgpAddRoute6]
      split_ifs
      · exact sound
      · exact flagged6_sound sound _
      · exact sound
  | delRoute dest =>
      rw [leads, bgpDelRoute]
      split
      · exact sound
      · exact flagged_sound sound _
  | delRoute6 dest =>
      rw [leads, bgpDelRoute6]
      split
      · exact sound
      · exact flagged6_sound sound _
  | enableRouting enable =>
      rw [leads]
      exact fun i => routing_sound (sound i) (keeps i)
  | start i neighbour enable resolved allocated connect =>
      rw [leads]
      exact sound.setPeer (bgpStart_carries ..)
  | stop i result =>
      rw [leads]
      exact sound.setPeer (bgpSendNotification_carries ..)
  | cli i flag =>
      rw [leads]
      exact sound.setPeer (.of_same rfl (.inl rfl) rfl)
  | process rounds => exact bgpProcess_sound sound keeps leads
  | timers rounds =>
      rw [leads]
      intro i
      rw [bgpProcessPeersTimers]
      dsimp only
      split
      · exact (bgpProcessTimers_carries _ _).sound (sound i)
      · exact sound i
  | tick timeNow =>
      rw [leads]
      exact sound

/-- **Convergence.** In every run in which memory for routes is found and no event changes the
IPv6 routes for an established peer that is not flagged for them, each established peer knows
the routes that are wanted unless it is flagged. -/
theorem peers_converge {speaker : Speaker} (reached : bgpSystem.ReachableUnder Event.Keeps speaker)
    (i : Nat) : (speaker.peer i).Converged speaker.routes speaker.routes6 := by
  have sound : speaker.Sound := reached.invariant (fun _ => bgpSystem_initial)
    fun _ _ _ sound keeps leads => bgpSystem_step sound keeps leads
  exact (sound i).converged

def speakingServer : Server := ⟨0, 1, 0, true⟩

/-- No peer is configured. -/
def idleSpeaker (routes6 : List IpPrefix) : Speaker :=
  ⟨speakingServer, false, [], routes6, fun _ => .zero⟩

/-- A peer that was sent an OPEN. -/
def greetedPeer : Peer :=
  bgpStart speakingServer .zero ⟨"peer", 1, none, none, 0⟩ true true true (.connected (.wrote 37))

def greetedSpeaker (routes6 : List IpPrefix) : Speaker :=
  { (idleSpeaker routes6).setPeer 0 greetedPeer with configured := true }

/-- An OPEN with the multiprotocol capability, and a KEEPALIVE. -/
def greeting : List UInt8 :=
  List.replicate 16 0xff ++ [0, 37, 1, 4, 0, 1, 0, 180, 0, 0, 0, 0, 8, 2, 6, 1, 4, 0, 2, 0, 1] ++
    List.replicate 16 0xff ++ [0, 19, 4]

/-- A round that reads the greeting. -/
def greetingRound : Round where
  writable := false
  readable := true
  restarted := .noService
  connected := none
  written := .again
  read := .read greeting
  stack := fun _ _ => 0
  answered := fun _ => .wrote 19
  allocated := true
  updated := .again
  allocated6 := true
  updated6 := .again
  timed := .again
  connect := .noService

/-- What the round makes of a peer by one message. -/
def answered (peer : Peer) : Peer :=
  (bgpHandleInput speakingServer peer (fun _ => 0) (.wrote 19)).getD .zero

def greetingHeard : Peer := (bgpRead speakingServer greetedPeer (.read greeting)).1

def greetingConfirmed : Peer := answered greetingHeard

def greetingEstablished : Peer := answered greetingConfirmed

def establishedSpeaker (routes6 : List IpPrefix) : Speaker :=
  (greetedSpeaker routes6).setPeer 0
    (finishRound (greetedSpeaker routes6) greetingRound greetingEstablished)

theorem answered_iterate (peer : Peer) (turn : Nat) (input : peer.HasInput)
    (defined : (bgpHandleInput speakingServer peer (fun _ => 0) (.wrote 19)).isSome = true) :
    (inputLoop ⟨speakingServer, greetingRound.stack, greetingRound.answered⟩).iterate
      ⟨peer, turn⟩ = .inr ⟨answered peer, turn + 1⟩ := by
  obtain ⟨handled, same⟩ := Option.isSome_iff_exists.mp defined
  simp only [inputLoop]
  rw [if_pos input]
  simp only [greetingRound, same, answered, Option.getD_some]

theorem greeting_steps :
    (greetingHeard.HasInput ∧ greetingHeard.routes6 = [] ∧
      (bgpHandleInput speakingServer greetingHeard (fun _ => 0) (.wrote 19)).isSome = true) ∧
    (greetingConfirmed.HasInput ∧ greetingConfirmed.routes6 = [] ∧
      (bgpHandleInput speakingServer greetingConfirmed (fun _ => 0) (.wrote 19)).isSome = true) ∧
    ¬ greetingEstablished.HasInput ∧ greetingEstablished.routes6 = [] := by
  decide +kernel

theorem greetingHeard_iterate :
    (inputLoop ⟨speakingServer, greetingRound.stack, greetingRound.answered⟩).iterate
      ⟨greetingHeard, turn⟩ = .inr ⟨greetingConfirmed, turn + 1⟩ :=
  answered_iterate _ turn greeting_steps.1.1 greeting_steps.1.2.2

theorem greetingConfirmed_iterate :
    (inputLoop ⟨speakingServer, greetingRound.stack, greetingRound.answered⟩).iterate
      ⟨greetingConfirmed, turn⟩ = .inr ⟨greetingEstablished, turn + 1⟩ :=
  answered_iterate _ turn greeting_steps.2.1.1 greeting_steps.2.1.2.2

theorem greetingEstablished_iterate :
    (inputLoop ⟨speakingServer, greetingRound.stack, greetingRound.answered⟩).iterate
      ⟨greetingEstablished, turn⟩ = .inl (some greetingEstablished) := by
  simp only [inputLoop]
  exact if_neg greeting_steps.2.2.1

theorem greeting_returns :
    (inputLoop ⟨speakingServer, greetingRound.stack, greetingRound.answered⟩).Returns
      ⟨greetingHeard, 0⟩ (some greetingEstablished) :=
  .again (greetingHeard_iterate 0) (.again (greetingConfirmed_iterate (0 + 1))
    (.leave (greetingEstablished_iterate (0 + 1 + 1))))

theorem greeting_buffered (routes6 : List IpPrefix) :
    bufferedPeer (greetedSpeaker routes6) greetingRound greetedPeer = (greetingHeard, true) := by
  rw [bufferedPeer, if_pos (by decide), processBuffers]
  rfl

theorem greetedSpeaker_peer (routes6 : List IpPrefix) :
    (greetedSpeaker routes6).peer 0 = greetedPeer := by
  simp only [greetedSpeaker, Speaker.setPeer, Function.update_self]

theorem greeting_processed (routes6 : List IpPrefix) :
    BgpProcess (greetedSpeaker routes6) (fun _ => greetingRound) (establishedSpeaker routes6) := by
  refine ⟨rfl, rfl, rfl, rfl, fun i => ?_⟩
  by_cases first : i = 0
  · have after : (establishedSpeaker routes6).peer 0 =
        finishRound (greetedSpeaker routes6) greetingRound greetingEstablished := by
      simp only [establishedSpeaker, Speaker.setPeer, Function.update_self]
    rw [first, if_pos ⟨rfl, by omega⟩, greetedSpeaker_peer, after, ProcessPeer]
    rw [if_neg (by decide), if_neg (by decide)]
    have buffered := greeting_buffered routes6
    rw [bufferedPeer] at buffered
    dsimp only
    rw [buffered, if_pos rfl]
    exact ⟨greetingEstablished, greeting_returns, rfl⟩
  · have before : (greetedSpeaker routes6).peer i = .zero := Function.update_of_ne first _ _
    have after : (establishedSpeaker routes6).peer i = .zero :=
      (Function.update_of_ne first _ _).trans before
    rw [before, after]
    split
    · rw [ProcessPeer, if_neg (by decide), if_pos (by decide)]
    · rfl

/-- The start of a peer to which an OPEN can be sent at once. -/
def greetingStart : Event :=
  .start 0 ⟨"peer", 1, none, none, 0⟩ true true true (.connected (.wrote 37))

theorem greeting_starts (routes6 : List IpPrefix) :
    greetingStart.Leads (idleSpeaker routes6) (greetedSpeaker routes6) := rfl

theorem idleSpeaker_initial : bgpSystem.initial (idleSpeaker []) := rfl

theorem idleSpeaker_adds (dest : IpPrefix) :
    Event.Leads (idleSpeaker []) (.addRoute6 dest true) (idleSpeaker [dest]) := rfl

/-- The flag for IPv6 is not set when the connection is established. -/
theorem peers_diverge : ¬ ∀ speaker, bgpSystem.Reachable speaker → ∀ i,
    (speaker.peer i).Converged speaker.routes speaker.routes6 := by
  intro converge
  have added : bgpSystem.Reachable (idleSpeaker [⟨64, 0x20010db8⟩]) :=
    .step (.addRoute6 _ true) (.initial idleSpeaker_initial) trivial (idleSpeaker_adds _)
  have started : bgpSystem.Reachable (greetedSpeaker [⟨64, 0x20010db8⟩]) :=
    .step greetingStart added trivial (greeting_starts _)
  have reached : bgpSystem.Reachable (establishedSpeaker [⟨64, 0x20010db8⟩]) :=
    .step (.process fun _ => greetingRound) started trivial (greeting_processed _)
  obtain ⟨state, handles, due, unequal⟩ : let peer :=
        (establishedSpeaker [⟨64, 0x20010db8⟩]).peer 0
      peer.state = .established ∧ peer.knowledge.handles6 = true ∧
        peer.knowledge.updateRoutes6 = false ∧ peer.knowledge.routes6.length ≠
          (if peer.knowledge.routing then
            (establishedSpeaker [⟨64, 0x20010db8⟩]).routes6 else []).length := by
    decide +kernel
  have known := (converge _ reached 0 state).routes6 handles due
  exact unequal known.length_eq

def Greeting (state : InputState) : Prop :=
  state.peer = greetingHeard ∨ state.peer = greetingConfirmed ∨ state.peer = greetingEstablished

/-- The routes of a peer in the round do not change when there are none. -/
theorem greetingRound_keeps : Round.Keeps (greetedSpeaker []) greetingRound greetedPeer := by
  refine ⟨rfl, rfl, fun _ => .inr (.inr rfl), fun _ state reached => ?_⟩
  rw [greeting_buffered] at reached
  replace reached : (inputLoop ⟨speakingServer, greetingRound.stack,
      greetingRound.answered⟩).Reaches ⟨greetingHeard, 0⟩ state := reached
  have peers : Greeting state := by
    induction reached with
    | refl => exact .inl rfl
    | @tail here next _ moves ih =>
        obtain ⟨peer, turn⟩ := here
        dsimp only [Greeting] at ih ⊢
        rw [WhileLoop.Continues] at moves
        rcases ih with same | same | same
        · rw [same] at moves
          rw [← Sum.inr.inj ((greetingHeard_iterate turn).symm.trans moves)]
          dsimp only
          exact .inr (.inl rfl)
        · rw [same] at moves
          rw [← Sum.inr.inj ((greetingConfirmed_iterate turn).symm.trans moves)]
          dsimp only
          exact .inr (.inr rfl)
        · rw [same] at moves
          cases (greetingEstablished_iterate turn).symm.trans moves
  intro _ _
  have nothing : state.peer.routes6 = [] := by
    rcases peers with same | same | same <;> rw [same]
    · exact greeting_steps.1.2.1
    · exact greeting_steps.2.1.2.1
    · exact greeting_steps.2.2.2
  have unwanted : state.peer.wanted (greetedSpeaker []).routes6 = [] := ite_self _
  rw [nothing, unwanted]
  exact .inr (.refl [])

/-- A connection is established when there are no IPv6 routes. -/
theorem peers_converge_established : ((establishedSpeaker []).peer 0).state = .established ∧
    ((establishedSpeaker []).peer 0).Converged [] [] := by
  have started : bgpSystem.ReachableUnder Event.Keeps (greetedSpeaker []) :=
    .step greetingStart (.initial idleSpeaker_initial) trivial (greeting_starts _)
  have keeps : Event.Keeps (greetedSpeaker []) (.process fun _ => greetingRound) := by
    intro i active _ enabled
    by_cases first : i = 0
    · rw [first, greetedSpeaker_peer]
      exact greetingRound_keeps
    · have other : (greetedSpeaker []).peer i = .zero := Function.update_of_ne first _ _
      exact absurd (congrArg Peer.state other) enabled
  refine ⟨by decide +kernel, ?_⟩
  exact peers_converge (.step _ started keeps (greeting_processed [])) 0

end L2tpns.Bgp
