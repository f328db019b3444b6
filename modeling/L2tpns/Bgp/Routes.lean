import L2tpns.Bgp.Peer
import Mathlib.Data.List.Sort

/-! # Routes that are advertised

The routes to advertise and those that a peer knows are sorted lists. An UPDATE withdraws what
is not wanted and adds one route, as far as there is room, and says whether more is to be
done. If it is not, the peer knows what is wanted (`L2tpns.Bgp.findDifferences_done`).
-/

namespace L2tpns.Bgp

def bgpInsertRoute (routes : List IpPrefix) (new : IpPrefix) : List IpPrefix :=
  routes.orderedInsert (· ≤ ·) new

/-- The route is in the list, which is searched up to the place for it. -/
def isCovered (dest : IpPrefix) : List IpPrefix → Bool
  | [] => false
  | route :: routes =>
      if route = dest then true
      else if dest < route then false
      else isCovered dest routes

/-- The list without a route, if it is found on the way to the place for it. -/
def removeRoute (dest : IpPrefix) : List IpPrefix → Option (List IpPrefix)
  | [] => none
  | route :: routes =>
      if route = dest then some routes
      else if dest < route then none
      else (removeRoute dest routes).map (route :: ·)

/-- What the loop over both lists has found. -/
structure Differences where
  /-- Routes that the peer has and keeps. -/
  kept : List IpPrefix
  /-- The rest of what the peer has. -/
  have_ : List IpPrefix
  /-- The rest of what is wanted. -/
  want : List IpPrefix
  withdrawn : List IpPrefix
  add : Option IpPrefix
  more : Bool

namespace Differences

variable (diff : Differences)

/-- `unf_len`: the size of the prefixes that are withdrawn. -/
def withdrawnLen : Nat := (diff.withdrawn.map IpPrefix.size).sum

/-- The routes of the peer as the loop leaves them. -/
def routes : List IpPrefix := diff.kept ++ diff.have_

end Differences

/-- One difference; `none` if there is nothing left, or a second route to add and nothing to
withdraw. The flag is raised behind the loop in that case. -/
def nextDifference (diff : Differences) : Option Differences :=
  match diff.have_, diff.want with
  | [], [] => none
  | route :: rest, [] => some { diff with have_ := rest, withdrawn := diff.withdrawn ++ [route] }
  | [], wanted :: wants =>
      if diff.add.isSome then none else some { diff with want := wants, add := some wanted }
  | route :: rest, wanted :: wants =>
      if route < wanted then
        some { diff with have_ := rest, withdrawn := diff.withdrawn ++ [route] }
      else if route = wanted then
        some { diff with kept := diff.kept ++ [route], have_ := rest, want := wants }
      -- only one addition in a packet
      else if diff.add.isSome then some { diff with want := wants, more := true }
      else some { diff with want := wants, add := some wanted }

theorem nextDifference_shorter {diff next : Differences} (found : nextDifference diff = some next) :
    next.have_.length + next.want.length < diff.have_.length + diff.want.length := by
  obtain ⟨kept, have_, want, withdrawn, add, more⟩ := diff
  cases have_ with
  | nil =>
      cases want with
      | nil => exact nomatch found
      | cons wanted wants =>
          simp only [nextDifference] at found
          split at found
          · exact nomatch found
          · rw [← Option.some.inj found]
            simp only [List.length_nil, List.length_cons]
            omega
  | cons route rest =>
      cases want with
      | nil =>
          rw [← Option.some.inj found]
          simp only [List.length_nil, List.length_cons]
          omega
      | cons wanted wants =>
          simp only [nextDifference] at found
          split_ifs at found <;>
          · rw [← Option.some.inj found]
            simp only [List.length_cons]
            omega

/-- Find differences, as long as less than `room` bytes are used for prefixes that are
withdrawn. -/
def findDifferences (room : Nat) (diff : Differences) : Differences :=
  if diff.withdrawnLen < room then
    match _found : nextDifference diff with
    | some next => findDifferences room next
    | none => diff
  else diff
termination_by diff.have_.length + diff.want.length
decreasing_by exact nextDifference_shorter ‹_›

theorem findDifferences_induction {property : Differences → Prop} {room : Nat}
    (step : ∀ diff next, nextDifference diff = some next → property diff → property next)
    (diff : Differences) (holds : property diff) : property (findDifferences room diff) := by
  fun_induction findDifferences room diff with
  | case1 diff within next found ih => exact ih (step diff next found holds)
  | case2 diff within found => exact holds
  | case3 diff full => exact holds

/-- Unless more is to be done, the routes that are kept, the one to add and the rest of the
wanted ones are those of `wanted`. -/
def Differences.Accounts (diff : Differences) (wanted : List IpPrefix) : Prop :=
  diff.more = false → (diff.kept ++ diff.add.toList ++ diff.want).Perm wanted

theorem nextDifference_accounts {wanted : List IpPrefix} (diff next : Differences)
    (found : nextDifference diff = some next) (accounts : diff.Accounts wanted) :
    next.Accounts wanted := by
  obtain ⟨kept, have_, want, withdrawn, add, more⟩ := diff
  have adds {first : IpPrefix} {wants : List IpPrefix}
      (accounts :
        Differences.Accounts ⟨kept, have_, first :: wants, withdrawn, none, more⟩ wanted) :
      Differences.Accounts ⟨kept, have_, wants, withdrawn, some first, more⟩ wanted := by
    intro done
    refine List.Perm.trans ?_ (accounts done)
    simp only [Option.toList_some, Option.toList_none, List.append_nil, List.append_assoc,
      List.singleton_append]
    exact List.Perm.refl _
  cases have_ with
  | nil =>
      cases want with
      | nil => exact nomatch found
      | cons first wants =>
          simp only [nextDifference] at found
          cases add with
          | some second => exact nomatch found
          | none =>
              rw [← Option.some.inj found]
              exact adds accounts
  | cons route rest =>
      cases want with
      | nil =>
          rw [← Option.some.inj found]
          exact accounts
      | cons first wants =>
          simp only [nextDifference] at found
          by_cases before : route < first
          · rw [if_pos before] at found
            rw [← Option.some.inj found]
            exact accounts
          rw [if_neg before] at found
          by_cases same : route = first
          · rw [if_pos same] at found
            rw [← Option.some.inj found]
            intro done
            refine List.Perm.trans ?_ (accounts done)
            rw [same]
            simp only [List.append_assoc, List.singleton_append]
            refine List.Perm.append_left kept ?_
            exact List.perm_middle.symm
          rw [if_neg same] at found
          cases add with
          | some second =>
              rw [← Option.some.inj found]
              exact nofun
          | none =>
              rw [← Option.some.inj found]
              exact adds accounts

/-- The loop from what the peer has and what is wanted. -/
def Differences.start (have_ want : List IpPrefix) : Differences :=
  ⟨[], have_, want, [], none, false⟩

/-- More is to be done, or both lists were compared to their ends. -/
def Differences.unfinished (diff : Differences) : Bool :=
  diff.more || !diff.have_.isEmpty || !diff.want.isEmpty

theorem findDifferences_done {room : Nat} {have_ want : List IpPrefix}
    (done : (findDifferences room (.start have_ want)).unfinished = false) :
    ((findDifferences room (.start have_ want)).routes ++
      (findDifferences room (.start have_ want)).add.toList).Perm want := by
  have accounts : (findDifferences room (.start have_ want)).Accounts want :=
    findDifferences_induction nextDifference_accounts _ fun _ => List.Perm.refl _
  generalize findDifferences room (.start have_ want) = diff at done accounts
  simp only [Differences.unfinished, Bool.or_eq_false_iff, Bool.not_eq_false',
    List.isEmpty_iff] at done
  obtain ⟨⟨finished, nothing⟩, served⟩ := done
  have known := accounts finished
  rw [served, List.append_nil] at known
  rw [Differences.routes, nothing, List.append_nil]
  exact known

/-- The routes that a peer is to know. -/
def Peer.wanted (peer : Peer) (routes : List IpPrefix) : List IpPrefix :=
  if peer.routing then routes else []

/-- The room for prefixes in an UPDATE: room is left for the attributes and two prefixes. -/
def updateRoom (peer : Peer) : Nat :=
  bgpMaxPacketSize - bgpHeaderSize - 2 - peer.pathAttrLen - 5 - 5 - 2

/-- Send an UPDATE. `allocated` says whether memory for a route that is added is found. The
flag says whether the connection is still there and nothing went wrong. -/
def bgpSendUpdate (server : Server) (routes : List IpPrefix) (allocated : Bool)
    (peer : Peer) (result : WriteResult) : Peer × Bool :=
  let diff := findDifferences (updateRoom peer) (.start peer.routes (peer.wanted routes))
  let updated := { peer with routes := diff.routes, updateRoutes := diff.unfinished }
  let message := Message.update diff.withdrawn diff.add
  let len := bgpHeaderSize + 2 + diff.withdrawnLen + 2
  match diff.add with
  | none =>
      if diff.withdrawnLen = 0 then (updated, true)
      else bgpWrite server { updated with outbuf := ⟨message, len, 0⟩ } result
  | some add =>
      if allocated then
        bgpWrite server
          { updated with
            routes := bgpInsertRoute diff.routes add
            outbuf := ⟨message, len + peer.pathAttrLen + add.size, 0⟩ } result
      else (updated, false)

/-- The size of the attribute with IPv6 routes that are withdrawn, without the prefixes. -/
def mpUnreachSize : Nat := 7

/-- The size of the attribute with IPv6 routes that are added, without the prefix. -/
def mpReachSize : Nat := 24

def updateRoom6 (peer : Peer) : Nat :=
  bgpMaxPacketSize - bgpHeaderSize - 2 - peer.pathAttrLenWithoutNexthop - mpReachSize - 17 - 17 -
    (4 + peer.pathAttrLenWithoutNexthop + mpUnreachSize)

/-- Send an UPDATE for IPv6 routes. -/
def bgpSendUpdate6 (server : Server) (routes6 : List IpPrefix) (allocated : Bool)
    (peer : Peer) (result : WriteResult) : Peer × Bool :=
  let diff := findDifferences (updateRoom6 peer) (.start peer.routes6 (peer.wanted routes6))
  let updated := { peer with routes6 := diff.routes, updateRoutes6 := diff.unfinished }
  let message := Message.update6 diff.withdrawn diff.add
  let len := bgpHeaderSize + 4 + peer.pathAttrLenWithoutNexthop +
    if diff.withdrawnLen = 0 then 0 else mpUnreachSize + diff.withdrawnLen
  match diff.add with
  | none =>
      if diff.withdrawnLen = 0 then (updated, true)
      else bgpWrite server { updated with outbuf := ⟨message, len, 0⟩ } result
  | some add =>
      if allocated then
        bgpWrite server
          { updated with
            routes6 := bgpInsertRoute diff.routes add
            outbuf := ⟨message, len + mpReachSize + add.size, 0⟩ } result
      else (updated, false)

end L2tpns.Bgp
