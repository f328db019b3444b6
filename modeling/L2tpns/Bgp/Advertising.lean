import L2tpns.Bgp.Merging
import L2tpns.Bgp.Updates
import Mathlib.Data.Finset.Card
import Mathlib.Data.Finset.SymmDiff

/-! # Advertising routes

A call of `bgp_send_update` or `bgp_send_update6` sends an UPDATE with some of the differences
between the routes that a peer has and those that are wanted, and changes the routes of the peer
accordingly. Repeated, the calls make the routes the wanted ones. All messages on the way say what
they should exactly if the routes that differ are valid prefixes
(`L2tpns.Bgp.advertises_iff`).
-/

namespace L2tpns.Bgp

open Foundation

def Peer.routesOf (peer : Peer) : AddressFamily → List IpPrefix
  | .ipv4 => peer.routes
  | .ipv6 => peer.routes6

/-- `update_routes`, or `update_routes6`. -/
def Peer.updateOf (peer : Peer) : AddressFamily → Bool
  | .ipv4 => peer.updateRoutes
  | .ipv6 => peer.updateRoutes6

/-- `bgp_send_update`, or `bgp_send_update6`. -/
def sendUpdate : AddressFamily → Server → List IpPrefix → Bool → Peer → WriteResult → Peer × Bool
  | .ipv4 => bgpSendUpdate
  | .ipv6 => bgpSendUpdate6

/-- The room for prefixes that are withdrawn. -/
def roomOf (peer : Peer) : AddressFamily → Nat
  | .ipv4 => updateRoom peer
  | .ipv6 => updateRoom6 peer

/-- What a call finds. -/
def differences (family : AddressFamily) (routes : List IpPrefix) (peer : Peer) : Differences :=
  findDifferences (roomOf peer family) (.start (peer.routesOf family) (peer.wanted routes))

/-- Something is to be withdrawn or added. -/
def Sends (family : AddressFamily) (routes : List IpPrefix) (peer : Peer) : Prop :=
  (differences family routes peer).withdrawnLen ≠ 0 ∨ (differences family routes peer).add ≠ none

def Message.prefixes : Message → List IpPrefix
  | .update withdrawn add => withdrawn ++ add.toList
  | .update6 withdrawn add => withdrawn ++ add.toList
  | _ => []

def Outbuf.updateBytes (outbuf : Outbuf) (attrs : PathAttrs) (behind : Nat → UInt8) : List UInt8 :=
  match outbuf.packet with
  | .update withdrawn add => Bgp.updateBytes .ipv4 attrs behind outbuf.len withdrawn add
  | .update6 withdrawn add => Bgp.updateBytes .ipv6 attrs behind outbuf.len withdrawn add
  | _ => []

/-- A message says which routes are withdrawn and announced, and the routes of the peer change
accordingly. -/
structure Advertises (family : AddressFamily) (attrs : PathAttrs) (behind : Nat → UInt8)
    (outbuf : Outbuf) (peer next : Peer) : Prop where
  /-- Nothing behind the prefix in a list element is read. -/
  inside : ∀ dest ∈ outbuf.packet.prefixes, dest.size ≤ 1 + family.bytes
  size : (outbuf.updateBytes attrs behind).length ≤ bgpMaxPacketSize
  content : ∃ withdrawn announced,
    readRoutes family (outbuf.updateBytes attrs behind) = some (withdrawn, announced) ∧
      announced.length ≤ 1 ∧ (∀ dest ∈ withdrawn ++ announced, dest.len ≤ family.width) ∧
      ∀ dest, dest ∈ next.routesOf family ↔
        dest ∈ peer.routesOf family ∧ dest ∉ withdrawn ∨ dest ∈ announced
  sorted : Ascending (next.routesOf family)

/-- A call sends such a message, or leaves the routes as they are. The message is the one that is
in the output buffer as long as the write would block. -/
structure MeetsCall (family : AddressFamily) (server : Server) (attrs : PathAttrs)
    (behind : Nat → UInt8) (routes : List IpPrefix) (allocated : Bool) (peer next : Peer) :
    Prop where
  sends : Sends family routes peer →
    Advertises family attrs behind
      (sendUpdate family server routes allocated peer .again).1.outbuf peer next
  silent : ¬ Sends family routes peer → next.routesOf family = peer.routesOf family

/-- A number of calls that return 1. -/
inductive Repeats (family : AddressFamily) (server : Server) (routes : List IpPrefix)
    (peer : Peer) : Nat → Peer → Prop where
  | none : Repeats family server routes peer 0 peer
  | call {n : Nat} {mid next : Peer} (allocated : Bool) (result : WriteResult)
      (before : Repeats family server routes peer n mid)
      (returns : sendUpdate family server routes allocated mid result = (next, true)) :
      Repeats family server routes peer (n + 1) next

/-- Every call sends what it should or nothing. When the flag is cleared by a call, the routes are
the wanted ones, and after a number of calls the flag stays cleared. -/
structure Converges (family : AddressFamily) (server : Server) (attrs : PathAttrs)
    (behind : Nat → UInt8) (routes : List IpPrefix) (peer : Peer) : Prop where
  calls : ∀ n mid allocated result next, Repeats family server routes peer n mid →
    sendUpdate family server routes allocated mid result = (next, true) →
      MeetsCall family server attrs behind routes allocated mid next
  finished : ∀ n next, Repeats family server routes peer (n + 1) next →
    next.updateOf family = false → next.routesOf family = peer.wanted routes
  ends : ∃ most, ∀ n next, most ≤ n → Repeats family server routes peer n next →
    next.updateOf family = false

variable {family : AddressFamily} {server : Server} {attrs : PathAttrs} {behind : Nat → UInt8}
  {routes : List IpPrefix} {allocated : Bool} {peer mid next queued : Peer} {result : WriteResult}

/-- The routes and the flag of a peer after a call, and what does not change. -/
structure Updated (family : AddressFamily) (peer : Peer) (routes : List IpPrefix) (more : Bool)
    (after : Peer) : Prop where
  routes : after.routesOf family = routes
  more : after.updateOf family = more
  routing : after.routing = peer.routing
  len : after.pathAttrLen = peer.pathAttrLen
  lenWithoutNexthop : after.pathAttrLenWithoutNexthop = peer.pathAttrLenWithoutNexthop

/-- The routes with the one that is added. -/
def Differences.advertised (diff : Differences) : List IpPrefix :=
  match diff.add with
  | none => diff.routes
  | some add => bgpInsertRoute diff.routes add

/-- The message about what was found. -/
def Differences.message (diff : Differences) : AddressFamily → Message
  | .ipv4 => .update diff.withdrawn diff.add
  | .ipv6 => .update6 diff.withdrawn diff.add

theorem sendUpdate_silent (silent : ¬ Sends family routes peer) :
    ∃ updated, (∀ result, sendUpdate family server routes allocated peer result =
        (updated, true)) ∧
      Updated family peer (differences family routes peer).routes
        (differences family routes peer).unfinished updated := by
  rw [Sends, not_or, not_not, not_not] at silent
  obtain ⟨nothing, none⟩ := silent
  cases family with
  | ipv4 =>
      simp only [differences, roomOf, Peer.routesOf] at nothing none ⊢
      simp only [sendUpdate, bgpSendUpdate, none, nothing, ↓reduceIte]
      exact ⟨_, fun _ => rfl, rfl, rfl, rfl, rfl, rfl⟩
  | ipv6 =>
      simp only [differences, roomOf, Peer.routesOf] at nothing none ⊢
      simp only [sendUpdate, bgpSendUpdate6, none, nothing, ↓reduceIte]
      exact ⟨_, fun _ => rfl, rfl, rfl, rfl, rfl, rfl⟩

theorem withdrawnLen_eq (diff : Differences) :
    diff.withdrawnLen = prefixesSize diff.withdrawn := rfl

theorem sendUpdate_sends (sends : Sends family routes peer) (prepared : attrs.Prepared peer) :
    (allocated = false ∧
        ∀ result, (sendUpdate family server routes allocated peer result).2 = false) ∨
      ∃ queued, (∀ result, sendUpdate family server routes allocated peer result =
          bgpWrite server queued result) ∧
        Updated family peer (differences family routes peer).advertised
          (differences family routes peer).unfinished queued ∧
        queued.outbuf = ⟨(differences family routes peer).message family,
          updateLen family attrs (differences family routes peer).withdrawn
            (differences family routes peer).add, 0⟩ := by
  cases family with
  | ipv4 =>
      simp only [Sends, differences, roomOf, Peer.routesOf] at sends ⊢
      simp only [sendUpdate, bgpSendUpdate]
      generalize findDifferences (updateRoom peer) (.start peer.routes (peer.wanted routes)) = diff
        at sends ⊢
      cases add : diff.add with
      | none =>
          have some : diff.withdrawnLen ≠ 0 := sends.resolve_right (not_not.mpr add)
          simp only [some, ↓reduceIte]
          refine .inr ⟨_, fun _ => rfl, ⟨?_, rfl, rfl, rfl, rfl⟩, ?_⟩
          · simp only [Peer.routesOf, Differences.advertised, add]
          · simp only [Differences.message, add]
            rfl
      | some dest =>
          cases allocated with
          | false => exact .inl ⟨rfl, fun _ => rfl⟩
          | true =>
              simp only [↓reduceIte]
              refine .inr ⟨_, fun _ => rfl, ⟨?_, rfl, rfl, rfl, rfl⟩, ?_⟩
              · simp only [Peer.routesOf, Differences.advertised, add]
              · simp only [Differences.message, add, updateLen, ← prepared.len, withdrawnLen_eq,
                  Nat.add_assoc]
  | ipv6 =>
      simp only [Sends, differences, roomOf, Peer.routesOf] at sends ⊢
      simp only [sendUpdate, bgpSendUpdate6]
      generalize findDifferences (updateRoom6 peer)
        (.start peer.routes6 (peer.wanted routes)) = diff at sends ⊢
      cases add : diff.add with
      | none =>
          have some : diff.withdrawnLen ≠ 0 := sends.resolve_right (not_not.mpr add)
          simp only [some, ↓reduceIte]
          refine .inr ⟨_, fun _ => rfl, ⟨?_, rfl, rfl, rfl, rfl⟩, ?_⟩
          · simp only [Peer.routesOf, Differences.advertised, add]
          · rw [withdrawnLen_eq] at some
            simp only [Differences.message, add, updateLen, ← prepared.lenWithoutNexthop,
              withdrawnLen_eq, some, ↓reduceIte, Nat.add_zero]
      | some dest =>
          cases allocated with
          | false => exact .inl ⟨rfl, fun _ => rfl⟩
          | true =>
              simp only [↓reduceIte]
              refine .inr ⟨_, fun _ => rfl, ⟨?_, rfl, rfl, rfl, rfl⟩, ?_⟩
              · simp only [Peer.routesOf, Differences.advertised, add]
              · simp only [Differences.message, add, updateLen, ← prepared.lenWithoutNexthop,
                  withdrawnLen_eq, Nat.add_assoc]
                rfl

theorem bgpWrite_updated {after : Peer} {more : Bool}
    (updated : Updated family peer routes more queued)
    (written : bgpWrite server queued result = (after, true)) :
    Updated family peer routes more after := by
  have keeps : ∀ other : Peer, other.routes = queued.routes → other.routes6 = queued.routes6 →
      other.updateRoutes = queued.updateRoutes → other.updateRoutes6 = queued.updateRoutes6 →
      other.routing = queued.routing → other.pathAttrLen = queued.pathAttrLen →
      other.pathAttrLenWithoutNexthop = queued.pathAttrLenWithoutNexthop →
      Updated family peer routes more other := by
    intro other first second flag flag6 routing len len6
    obtain ⟨known, more, was, size, size6⟩ := updated
    refine ⟨?_, ?_, routing.trans was, len.trans size, len6.trans size6⟩
    · cases family
      · exact first.trans known
      · exact second.trans known
    · cases family
      · exact flag.trans more
      · exact flag6.trans more
  cases result with
  | again =>
      cases written
      exact updated
  | failed => exact nomatch congrArg Prod.snd written
  | wrote count =>
      simp only [bgpWrite] at written
      split_ifs at written <;> cases written <;> exact keeps _ rfl rfl rfl rfl rfl rfl rfl

theorem sendUpdate_updated (prepared : attrs.Prepared mid)
    (returns : sendUpdate family server routes allocated mid result = (next, true)) :
    Updated family mid (differences family routes mid).advertised
      (differences family routes mid).unfinished next := by
  by_cases sends : Sends family routes mid
  · rcases @sendUpdate_sends family server attrs routes allocated mid sends prepared with
      ⟨-, fails⟩ | ⟨queued, written, updated, -⟩
    · have failed := fails result
      rw [returns] at failed
      exact nomatch failed
    · rw [written] at returns
      exact bgpWrite_updated updated returns
  · obtain ⟨updated, silent, same⟩ := @sendUpdate_silent family server routes allocated mid sends
    rw [silent] at returns
    cases returns
    rw [Sends, not_or, not_not, not_not] at sends
    rwa [Differences.advertised, sends.2]

theorem sendUpdate_queued (sends : Sends family routes mid) (prepared : attrs.Prepared mid)
    (returns : sendUpdate family server routes allocated mid result = (next, true)) :
    (sendUpdate family server routes allocated mid .again).1.outbuf =
      ⟨(differences family routes mid).message family,
        updateLen family attrs (differences family routes mid).withdrawn
          (differences family routes mid).add, 0⟩ := by
  rcases @sendUpdate_sends family server attrs routes allocated mid sends prepared with
    ⟨-, fails⟩ | ⟨queued, written, -, outbuf⟩
  · have failed := fails result
    rw [returns] at failed
    exact nomatch failed
  · rw [written]
    exact outbuf

theorem sendUpdate_again (prepared : attrs.Prepared mid) :
    ∃ next, sendUpdate family server routes true mid .again = (next, true) := by
  by_cases sends : Sends family routes mid
  · rcases @sendUpdate_sends family server attrs routes true mid sends prepared with
      ⟨unfound, -⟩ | ⟨queued, written, -, -⟩
    · exact nomatch unfound
    · exact ⟨queued, written .again⟩
  · obtain ⟨updated, silent, -⟩ := @sendUpdate_silent family server routes true mid sends
    exact ⟨updated, silent .again⟩

/-- A route that is to be withdrawn or announced. -/
def Differs (have_ want : List IpPrefix) (dest : IpPrefix) : Prop :=
  dest ∈ have_ ∧ dest ∉ want ∨ dest ∈ want ∧ dest ∉ have_

theorem wanted_ascending (sorted : Ascending routes) : Ascending (peer.wanted routes) := by
  rw [Peer.wanted]
  split
  · exact sorted
  · exact .nil

variable {diff : Differences} {have_ want passed : List IpPrefix} {dest : IpPrefix}
  {speaker : Speaker}

theorem mem_advertised (merges : Merges have_ want passed diff) (dest : IpPrefix) :
    dest ∈ diff.advertised ↔ dest ∈ have_ ∧ dest ∉ diff.withdrawn ∨ dest ∈ diff.add := by
  have kept : dest ∈ diff.routes ↔ dest ∈ have_ ∧ dest ∉ diff.withdrawn := by
    rw [merges.had]
    have apart := merges.apart dest
    tauto
  rw [Differences.advertised]
  cases add : diff.add with
  | none => simpa using kept
  | some new =>
      simp only [bgpInsertRoute, List.mem_orderedInsert, kept, Option.mem_def, Option.some.injEq]
      tauto

theorem advertised_ascending
    (merges : Merges have_ want passed diff) : Ascending diff.advertised := by
  rw [Differences.advertised]
  cases add : diff.add with
  | none => exact merges.sorted
  | some new =>
      exact merges.sorted.insert fun known =>
        (merges.added new add).2 ((merges.had new).mpr (.inl known))

theorem Merges.differs (merges : Merges have_ want passed diff)
    (changes : dest ∈ diff.withdrawn ∨ dest ∈ diff.add) : Differs have_ want dest := by
  rcases changes with removed | new
  · exact .inl ⟨(merges.had dest).mpr (.inr removed), merges.unwanted dest removed⟩
  · exact .inr (merges.added dest new)

theorem Merges.differs_before (merges : Merges have_ want passed diff)
    (differs : Differs diff.advertised want dest) :
    Differs have_ want dest ∧ dest ∉ diff.withdrawn ∧ dest ∉ diff.add := by
  have unwanted := merges.unwanted dest
  have added := merges.added dest
  simp only [Differs, mem_advertised merges] at differs ⊢
  tauto

theorem Merges.exists_change (merges : Merges have_ want passed diff)
    (sends : diff.withdrawnLen ≠ 0 ∨ diff.add ≠ none) :
    ∃ dest, Differs have_ want dest ∧ (dest ∈ diff.withdrawn ∨ dest ∈ diff.add) := by
  have change : ∃ dest, dest ∈ diff.withdrawn ∨ dest ∈ diff.add := by
    rcases sends with removes | adds
    · obtain ⟨dest, member⟩ := List.exists_mem_of_ne_nil diff.withdrawn fun none =>
        removes (prefixesSize_eq_zero.mpr none)
      exact ⟨dest, .inl member⟩
    · obtain ⟨dest, new⟩ := Option.ne_none_iff_exists'.mp adds
      exact ⟨dest, .inr new⟩
  obtain ⟨dest, changes⟩ := change
  exact ⟨dest, merges.differs changes, changes⟩

theorem differences_merges (sorted : Ascending (mid.routesOf family)) (sorted' : Ascending routes) :
    ∃ passed, Merges (mid.routesOf family) (mid.wanted routes) passed
      (differences family routes mid) :=
  findDifferences_merges sorted (wanted_ascending sorted') _

theorem roomOf_pos (prepared : attrs.Prepared mid) : 0 < roomOf mid family := by
  have size : bgpHeaderSize = 19 := rfl
  have most : bgpMaxPacketSize = 4096 := rfl
  have unreach : mpUnreachSize = 7 := rfl
  have reach : mpReachSize = 24 := rfl
  have common : attrs.lenWithoutNexthop ≤ 28 := by
    rw [attrs.lenWithoutNexthop_eq]
    split <;> omega
  have all := attrs.pathAttrs_length
  cases family with
  | ipv4 =>
      rw [roomOf, updateRoom, prepared.len]
      omega
  | ipv6 =>
      rw [roomOf, updateRoom6, prepared.lenWithoutNexthop]
      omega

/-- What the calls leave of a peer. -/
structure Steady (family : AddressFamily) (attrs : PathAttrs) (routes : List IpPrefix)
    (peer next : Peer) : Prop where
  sorted : Ascending (next.routesOf family)
  prepared : attrs.Prepared next
  wanted : next.wanted routes = peer.wanted routes
  differs : ∀ dest, Differs (next.routesOf family) (peer.wanted routes) dest →
    Differs (peer.routesOf family) (peer.wanted routes) dest

theorem Steady.call (steady : Steady family attrs routes peer mid) (sorted : Ascending routes)
    (returns : sendUpdate family server routes allocated mid result = (next, true)) :
    Steady family attrs routes peer next := by
  obtain ⟨passed, merges⟩ := @differences_merges family routes mid steady.sorted sorted
  have updated := sendUpdate_updated steady.prepared returns
  refine ⟨?_, ⟨?_, ?_⟩, ?_, fun dest differs => ?_⟩
  · rw [updated.routes]
    exact advertised_ascending merges
  · rw [updated.len, steady.prepared.len]
  · rw [updated.lenWithoutNexthop, steady.prepared.lenWithoutNexthop]
  · rw [← steady.wanted, Peer.wanted, Peer.wanted, updated.routing]
  · rw [updated.routes, ← steady.wanted] at differs
    refine steady.differs dest ?_
    rw [← steady.wanted]
    exact (merges.differs_before differs).1

theorem Repeats.steady {n : Nat} (repeats : Repeats family server routes peer n next)
    (prepared : attrs.Prepared peer) (sorted : Ascending (peer.routesOf family))
    (sorted' : Ascending routes) : Steady family attrs routes peer next := by
  induction repeats with
  | none => exact ⟨sorted, prepared, rfl, fun _ => id⟩
  | call allocated result _ returns ih => exact ih.call sorted' returns

theorem sendUpdate_finished (steady : Steady family attrs routes peer mid)
    (sorted : Ascending routes)
    (returns : sendUpdate family server routes allocated mid result = (next, true))
    (cleared : next.updateOf family = false) : next.routesOf family = peer.wanted routes := by
  obtain ⟨passed, merges⟩ := @differences_merges family routes mid steady.sorted sorted
  have updated := sendUpdate_updated steady.prepared returns
  have done := findDifferences_done (updated.more.symm.trans cleared)
  rw [updated.routes]
  refine (advertised_ascending merges).eq_of_mem (wanted_ascending sorted) fun dest => ?_
  rw [← steady.wanted, ← done.mem_iff, mem_advertised merges, List.mem_append, Option.mem_toList,
    merges.had]
  have apart := merges.apart dest
  simp only [differences] at apart ⊢
  tauto

theorem sendUpdate_progress (steady : Steady family attrs routes peer mid)
    (sorted : Ascending routes)
    (returns : sendUpdate family server routes allocated mid result = (next, true))
    (flagged : next.updateOf family = true) : Sends family routes mid := by
  have updated := sendUpdate_updated steady.prepared returns
  exact findDifferences_progress (roomOf_pos steady.prepared) steady.sorted
    (wanted_ascending sorted) (updated.more.symm.trans flagged)

/-- How many routes differ. -/
def remaining (have_ want : List IpPrefix) : Nat := (symmDiff have_.toFinset want.toFinset).card

theorem mem_remaining : dest ∈ symmDiff have_.toFinset want.toFinset ↔ Differs have_ want dest := by
  rw [Finset.mem_symmDiff, List.mem_toFinset, List.mem_toFinset]
  rfl

theorem sendUpdate_remaining (steady : Steady family attrs routes peer mid)
    (sorted : Ascending routes)
    (returns : sendUpdate family server routes allocated mid result = (next, true))
    (sends : Sends family routes mid) :
    remaining (next.routesOf family) (peer.wanted routes) <
      remaining (mid.routesOf family) (peer.wanted routes) := by
  obtain ⟨passed, merges⟩ := @differences_merges family routes mid steady.sorted sorted
  obtain ⟨dest, differs, changes⟩ := merges.exists_change sends
  rw [steady.wanted] at merges differs
  rw [(sendUpdate_updated steady.prepared returns).routes]
  refine Finset.card_lt_card ((Finset.ssubset_iff_of_subset fun other member => ?_).mpr
    ⟨dest, mem_remaining.mpr differs, fun member => ?_⟩)
  · exact mem_remaining.mpr (merges.differs_before (mem_remaining.mp member)).1
  · obtain ⟨-, kept, old⟩ := merges.differs_before (mem_remaining.mp member)
    exact changes.elim kept old

theorem sendUpdate_settled (steady : Steady family attrs routes peer mid)
    (sorted : Ascending routes) (settled : mid.routesOf family = peer.wanted routes)
    (returns : sendUpdate family server routes allocated mid result = (next, true)) :
    next.updateOf family = false := by
  obtain ⟨passed, merges⟩ := @differences_merges family routes mid steady.sorted sorted
  rw [← Bool.not_eq_true]
  intro flagged
  obtain ⟨dest, differs, -⟩ :=
    merges.exists_change (sendUpdate_progress steady sorted returns flagged)
  rw [steady.wanted, settled] at differs
  simp [Differs] at differs

/-- Each call makes the routes the wanted ones, or less of them differ. -/
theorem Repeats.ends {n : Nat} (repeats : Repeats family server routes peer n next)
    (prepared : attrs.Prepared peer) (sorted : Ascending (peer.routesOf family))
    (sorted' : Ascending routes) :
    next.updateOf family = false ∧ next.routesOf family = peer.wanted routes ∨
      remaining (next.routesOf family) (peer.wanted routes) + n ≤
        remaining (peer.routesOf family) (peer.wanted routes) := by
  induction repeats with
  | none => exact .inr le_rfl
  | @call n mid next allocated result before returns ih =>
      have steady := before.steady prepared sorted sorted'
      cases flagged : next.updateOf family with
      | false => exact .inl ⟨rfl, sendUpdate_finished steady sorted' returns flagged⟩
      | true =>
          refine .inr ?_
          rcases ih with ⟨-, settled⟩ | less
          · have cleared := sendUpdate_settled steady sorted' settled returns
            rw [flagged] at cleared
            exact nomatch cleared
          · have sends := sendUpdate_progress steady sorted' returns flagged
            have fewer := sendUpdate_remaining steady sorted' returns sends
            omega

/-- The routes that differ are valid prefixes, and if there are IPv6 routes among them, the peer
was started with an IPv6 prefix. -/
structure Sendable (family : AddressFamily) (attrs : PathAttrs) (have_ want : List IpPrefix) :
    Prop where
  valid : ∀ dest, Differs have_ want dest → dest.Valid family
  started : family = .ipv6 → (∃ dest, Differs have_ want dest) → attrs.nextHop6.isSome

theorem message_updateBytes (diff : Differences) (len : Nat) :
    Outbuf.updateBytes ⟨diff.message family, len, 0⟩ attrs behind =
      updateBytes family attrs behind len diff.withdrawn diff.add := by
  cases family <;> rfl

theorem message_prefixes (diff : Differences) :
    (diff.message family).prefixes = diff.withdrawn ++ diff.add.toList := by
  cases family <;> rfl

theorem valid_size (valid : dest.Valid family) : dest.size ≤ 1 + family.bytes := by
  have count := count_le valid.len
  rw [size_eq]
  omega

/-- There is room in a message for what is found. -/
theorem updateLen_le (prepared : attrs.Prepared mid)
    (removed : ∀ dest ∈ (differences family routes mid).withdrawn, dest.Valid family)
    (added : ∀ dest ∈ (differences family routes mid).add, dest.Valid family) :
    updateLen family attrs (differences family routes mid).withdrawn
      (differences family routes mid).add ≤ bgpMaxPacketSize := by
  have size : bgpHeaderSize = 19 := rfl
  have most : bgpMaxPacketSize = 4096 := rfl
  have unreach : mpUnreachSize = 7 := rfl
  have reach : mpReachSize = 24 := rfl
  have positive := @roomOf_pos family attrs mid prepared
  have short := @findDifferences_withdrawnLen (roomOf mid family) (1 + family.bytes)
    (.start (mid.routesOf family) (mid.wanted routes)) (Nat.add_pos_left positive _)
    fun dest member => valid_size (removed dest member)
  rw [← differences, withdrawnLen_eq] at short
  have all := attrs.pathAttrs_length
  have common : attrs.lenWithoutNexthop ≤ 28 := by
    rw [attrs.lenWithoutNexthop_eq]
    split <;> omega
  generalize differences family routes mid = diff at *
  have last : ∀ dest ∈ diff.add, dest.size ≤ 1 + family.bytes := fun dest member =>
    valid_size (added dest member)
  cases family with
  | ipv4 =>
      simp only [roomOf, updateRoom, prepared.len, AddressFamily.bytes] at short last
      simp only [updateLen]
      cases add : diff.add with
      | none =>
          dsimp only
          omega
      | some dest =>
          have one := last dest add
          dsimp only
          omega
  | ipv6 =>
      simp only [roomOf, updateRoom6, prepared.lenWithoutNexthop, AddressFamily.bytes] at short last
      simp only [updateLen]
      cases add : diff.add with
      | none =>
          dsimp only
          split <;> omega
      | some dest =>
          have one := last dest add
          dsimp only
          split <;> omega

/-- A call sends what it should if the routes that differ are sendable. -/
theorem meetsCall_of_sendable (sendable : Sendable family attrs (peer.routesOf family)
      (peer.wanted routes)) (steady : Steady family attrs routes peer mid)
    (sorted : Ascending routes)
    (returns : sendUpdate family server routes allocated mid result = (next, true)) :
    MeetsCall family server attrs behind routes allocated mid next := by
  obtain ⟨passed, merges⟩ := @differences_merges family routes mid steady.sorted sorted
  have updated := sendUpdate_updated steady.prepared returns
  refine ⟨fun sends => ?_, fun silent => ?_⟩
  · rw [sendUpdate_queued sends steady.prepared returns]
    have differs : ∀ {dest}, dest ∈ (differences family routes mid).withdrawn ∨
        dest ∈ (differences family routes mid).add →
          Differs (peer.routesOf family) (peer.wanted routes) dest := fun changes =>
      steady.differs _ (steady.wanted ▸ merges.differs changes)
    have removed : ∀ dest ∈ (differences family routes mid).withdrawn, dest.Valid family :=
      fun dest member => sendable.valid dest (differs (.inl member))
    have added : ∀ dest ∈ (differences family routes mid).add, dest.Valid family :=
      fun dest member => sendable.valid dest (differs (.inr member))
    have fits := updateLen_le steady.prepared removed added
    have started : family = .ipv6 → attrs.nextHop6.isSome := by
      obtain ⟨dest, -, changes⟩ := merges.exists_change sends
      exact fun ipv6 => sendable.started ipv6 ⟨dest, differs changes⟩
    have valid : ∀ dest ∈ (differences family routes mid).withdrawn ++
        (differences family routes mid).add.toList, dest.Valid family := by
      intro dest member
      rcases List.mem_append.mp member with old | new
      · exact removed dest old
      · exact added dest (Option.mem_toList.mp new)
    refine ⟨fun dest member => ?_, ?_, ⟨(differences family routes mid).withdrawn,
      (differences family routes mid).add.toList, ?_, ?_, ?_, fun dest => ?_⟩, ?_⟩
    · exact valid_size (valid dest (message_prefixes _ ▸ member))
    · rw [message_updateBytes, updateBytes_eq, Update.bytes_length, updateParts_length]
      exact fits
    · rw [message_updateBytes]
      exact readRoutes_updateBytes fits started removed added
    · exact Option.length_toList_le
    · exact fun dest member => (valid dest member).len
    · rw [updated.routes, mem_advertised merges, Option.mem_toList]
      exact Iff.rfl
    · rw [updated.routes]
      exact advertised_ascending merges
  · rw [Sends, not_or, not_not, not_not] at silent
    rw [updated.routes]
    refine (advertised_ascending merges).eq_of_mem steady.sorted fun dest => ?_
    rw [mem_advertised merges, prefixesSize_eq_zero.mp silent.1, silent.2]
    exact ⟨fun either => (either.resolve_right nofun).1, fun member => .inl ⟨member, nofun⟩⟩

theorem converges_of_sendable (prepared : attrs.Prepared peer)
    (sorted : Ascending (peer.routesOf family)) (sorted' : Ascending routes)
    (sendable : Sendable family attrs (peer.routesOf family) (peer.wanted routes)) :
    Converges family server attrs behind routes peer where
  calls n mid allocated result next repeats returns :=
    meetsCall_of_sendable sendable (repeats.steady prepared sorted sorted') sorted' returns
  finished n next repeats cleared := by
    cases repeats with
    | call allocated result before returns =>
        exact sendUpdate_finished (before.steady prepared sorted sorted') sorted' returns cleared
  ends := by
    refine ⟨remaining (peer.routesOf family) (peer.wanted routes) + 1,
      fun n next most repeats => ?_⟩
    rcases repeats.ends prepared sorted sorted' with ⟨cleared, -⟩ | less
    · exact cleared
    · omega

theorem exists_repeats (prepared : attrs.Prepared peer) (sorted : Ascending (peer.routesOf family))
    (sorted' : Ascending routes) (n : Nat) : ∃ next, Repeats family server routes peer n next := by
  induction n with
  | zero => exact ⟨peer, .none⟩
  | succ n ih =>
      obtain ⟨mid, before⟩ := ih
      have steady := before.steady prepared sorted sorted'
      obtain ⟨next, returns⟩ := @sendUpdate_again family server attrs routes mid steady.prepared
      exact ⟨next, .call true .again before returns⟩

theorem Advertises.started (sends : Sends family routes mid) (prepared : attrs.Prepared mid)
    (returns : sendUpdate family server routes allocated mid result = (next, true))
    (advertises : Advertises family attrs behind
      (sendUpdate family server routes allocated mid .again).1.outbuf mid next)
    (ipv6 : family = .ipv6) : attrs.nextHop6.isSome := by
  obtain ⟨withdrawn, announced, read, -⟩ := advertises.content
  rw [sendUpdate_queued sends prepared returns, message_updateBytes] at read
  subst ipv6
  by_contra unstarted
  have none := @readRoutes_unstarted attrs behind _ _ _ (Option.not_isSome_iff_eq_none.mp unstarted)
    (sends.imp_left fun removes nothing => removes (prefixesSize_eq_zero.mpr nothing)) rfl
  rw [none] at read
  exact nomatch read

theorem MeetsCall.valid (meets : MeetsCall family server attrs behind routes allocated mid next)
    (prepared : attrs.Prepared mid)
    (returns : sendUpdate family server routes allocated mid result = (next, true))
    (differs : Differs (mid.routesOf family) want dest) :
    Differs (next.routesOf family) want dest ∨
      dest.Valid family ∧ (family = .ipv6 → attrs.nextHop6.isSome) := by
  by_cases sends : Sends family routes mid
  · have advertises := meets.sends sends
    obtain ⟨withdrawn, announced, read, -, -, after⟩ := advertises.content
    have valid := readRoutes_valid read
    by_cases said : dest ∈ withdrawn ∨ dest ∈ announced
    · exact .inr ⟨said.elim (valid.1 dest) (valid.2 dest),
        advertises.started sends prepared returns⟩
    · refine .inl ?_
      have same := after dest
      simp only [Differs] at differs ⊢
      tauto
  · exact .inl (meets.silent sends ▸ differs)

theorem sendable_of_converges (prepared : attrs.Prepared peer)
    (sorted : Ascending (peer.routesOf family)) (sorted' : Ascending routes)
    (converges : Converges family server attrs behind routes peer) :
    Sendable family attrs (peer.routesOf family) (peer.wanted routes) := by
  have run : ∀ {n next}, Repeats family server routes peer n next →
      ∀ dest, Differs (peer.routesOf family) (peer.wanted routes) dest →
        Differs (next.routesOf family) (peer.wanted routes) dest ∨
          dest.Valid family ∧ (family = .ipv6 → attrs.nextHop6.isSome) := by
    intro n next repeats dest differs
    induction repeats with
    | none => exact .inl differs
    | @call n mid next allocated result before returns ih =>
        refine ih.elim (fun still => ?_) .inr
        exact (converges.calls n mid allocated result next before returns).valid
          (before.steady prepared sorted sorted').prepared returns still
  obtain ⟨most, ends⟩ := converges.ends
  obtain ⟨last, repeats⟩ := @exists_repeats family server attrs routes peer prepared sorted sorted'
    (most + 1)
  have settled := converges.finished most last repeats (ends _ last (Nat.le_succ most) repeats)
  have sent : ∀ dest, Differs (peer.routesOf family) (peer.wanted routes) dest →
      dest.Valid family ∧ (family = .ipv6 → attrs.nextHop6.isSome) := by
    intro dest differs
    refine (run repeats dest differs).resolve_left fun still => ?_
    rw [settled] at still
    exact still.elim (fun old => old.2 old.1) fun new => new.2 new.1
  exact ⟨fun dest differs => (sent dest differs).1,
    fun ipv6 ⟨dest, differs⟩ => (sent dest differs).2 ipv6⟩

/-- The destination that is made of an address and an `int`: the length is stored in a byte. -/
def storedPrefix (address : Nat) (prefixlen : Int) : IpPrefix := ⟨(prefixlen % 256).toNat, address⟩

/-- The routes to advertise are sorted, and without duplicates. -/
def Speaker.Sorted (speaker : Speaker) : Prop :=
  Ascending speaker.routes ∧ Ascending speaker.routes6

theorem bgpSystem_initial_sorted (start : bgpSystem.initial speaker) : speaker.Sorted := by
  rw [start]
  exact ⟨.nil, .nil⟩

theorem bgpSystem_step_sorted {next : Speaker} {event : Event} (sorted : speaker.Sorted)
    (leads : event.Leads speaker next) : next.Sorted := by
  have added : ∀ {routes : List IpPrefix} {dest : IpPrefix}, Ascending routes →
      ¬ isCovered dest routes = true → Ascending (bgpInsertRoute routes dest) :=
    fun sorted uncovered => sorted.insert fun known => uncovered (isCovered_of_mem sorted known)
  have removed : ∀ {routes rest : List IpPrefix} {dest : IpPrefix}, Ascending routes →
      removeRoute dest routes = some rest → Ascending rest :=
    fun sorted found => sorted.sublist (removeRoute_sublist found)
  cases event with
  | addRoute dest allocated =>
      rw [leads, bgpAddRoute]
      split_ifs with covered
      · exact sorted
      · exact ⟨added sorted.1 covered, sorted.2⟩
      · exact sorted
  | addRoute6 dest allocated =>
      rw [leads, bgpAddRoute6]
      split_ifs with covered
      · exact sorted
      · exact ⟨sorted.1, added sorted.2 covered⟩
      · exact sorted
  | delRoute dest =>
      rw [leads, bgpDelRoute]
      split
      · exact sorted
      · next found => exact ⟨removed sorted.1 found, sorted.2⟩
  | delRoute6 dest =>
      rw [leads, bgpDelRoute6]
      split
      · exact sorted
      · next found => exact ⟨sorted.1, removed sorted.2 found⟩
  | process rounds =>
      rw [Speaker.Sorted, leads.routes, leads.routes6]
      exact sorted
  | enableRouting enable | start i neighbour enable resolved allocated connect | stop i result
  | cli i flag | timers rounds | tick timeNow =>
      rw [leads]
      exact sorted

/-- A peer of a server in the same autonomous system, as it is started. -/
def startedPeer : Peer :=
  preparePeer ⟨0, 64512, 0, false⟩ .zero ⟨"10.0.0.2", 0, none, none, 0⟩ true

/-- The attributes of its UPDATEs. -/
def startedAttrs : PathAttrs := ⟨64512, true, 0x0a000001, none⟩

theorem startedPeer_prepared : startedAttrs.Prepared startedPeer :=
  preparePeer_prepared ⟨0, 64512, 0, false⟩ .zero ⟨"10.0.0.2", 0, none, none, 0⟩ true 0x0a000001
    none

/-- The server is started with a bind address, which is registered with a length of 0xffffffff. -/
def boundSpeaker : Speaker :=
  bgpAddRoute ⟨⟨0, 64512, 0, false⟩, false, [], [], fun _ => .zero⟩
    (storedPrefix 0x0a000001 0xffffffff) true

/-- **In every run** the lists stay sorted. -/
theorem bgpSystem_sorted (reached : bgpSystem.Reachable speaker) : speaker.Sorted :=
  reached.invariant (fun _ => bgpSystem_initial_sorted)
    fun _ _ _ sorted leads => bgpSystem_step_sorted sorted leads

theorem bgpSystem_sorted_bound : boundSpeaker.Sorted :=
  have start : bgpSystem.initial ⟨⟨0, 64512, 0, false⟩, false, [], [], fun _ => .zero⟩ := rfl
  bgpSystem_sorted (.step (.addRoute (storedPrefix 0x0a000001 0xffffffff) true) (.initial start)
    trivial rfl)

/-- **Advertising.** For sorted lists, every call says what it does, and the calls make the routes
the wanted ones, exactly if the routes that differ are valid prefixes of the family, and the peer
was started with an IPv6 prefix if there are IPv6 routes among them. -/
theorem advertises_iff (family : AddressFamily) (server : Server) (attrs : PathAttrs)
    (behind : Nat → UInt8) (routes : List IpPrefix) (peer : Peer) (prepared : attrs.Prepared peer)
    (sorted : Ascending (peer.routesOf family)) (sorted' : Ascending routes) :
    Converges family server attrs behind routes peer ↔
      Sendable family attrs (peer.routesOf family) (peer.wanted routes) :=
  ⟨sendable_of_converges prepared sorted sorted', converges_of_sendable prepared sorted sorted'⟩

/-- A prefix of 255 bits is copied from the list element with the bind address. -/
theorem bindAddress_malformed :
    ¬ Converges .ipv4 ⟨0, 64512, 0, false⟩ startedAttrs (fun _ => 0) boundSpeaker.routes
      startedPeer := by
  intro converges
  have known : Ascending (startedPeer.routesOf .ipv4) := .nil
  have sendable := sendable_of_converges startedPeer_prepared known (List.pairwise_singleton _ _)
    converges
  have valid := sendable.valid (storedPrefix 0x0a000001 0xffffffff)
    (.inr ⟨List.mem_cons_self, nofun⟩)
  exact absurd valid.len (by decide)

/-- One network is withdrawn, and another one is announced. -/
theorem network_advertised :
    Converges .ipv4 ⟨0, 64512, 0, false⟩ startedAttrs (fun _ => 0) [⟨24, 0x0a000000⟩]
      { startedPeer with routes := [⟨16, 0x0a010000⟩] } := by
  have prepared := startedPeer_prepared
  refine (advertises_iff .ipv4 _ startedAttrs _ [⟨24, 0x0a000000⟩]
    { startedPeer with routes := [⟨16, 0x0a010000⟩] } ⟨prepared.1, prepared.2⟩
    (List.pairwise_singleton _ _) (List.pairwise_singleton _ _)).mpr ⟨fun dest differs => ?_, nofun⟩
  rcases differs with ⟨old, -⟩ | ⟨new, -⟩
  · rw [List.mem_singleton.mp old]
    decide
  · rw [List.mem_singleton.mp new]
    decide

end L2tpns.Bgp
