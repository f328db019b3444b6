import L2tpns.Bgp.Routes

/-! # The loop over two sorted lists

The routes that a peer has and those that are wanted are sorted, without duplicates. The loop
goes over both of them, taking routes out of the first one on its way. What it withdraws is not
wanted, and what it adds was not there (`L2tpns.Bgp.findDifferences_merges`); unless nothing is
to be done, it withdraws or adds something (`L2tpns.Bgp.findDifferences_progress`).
-/

namespace L2tpns.Bgp

variable {have_ want : List IpPrefix} {diff next : Differences} {route wanted : IpPrefix}
  {rest wants : List IpPrefix}

/-- Sorted, and without duplicates. -/
def Ascending (routes : List IpPrefix) : Prop := routes.Pairwise (· < ·)

theorem Ascending.head_lt (sorted : Ascending (route :: rest)) : ∀ dest ∈ rest, route < dest :=
  (List.pairwise_cons.mp sorted).1

theorem Ascending.eq_of_mem {routes others : List IpPrefix} (sorted : Ascending routes)
    (sorted' : Ascending others) (same : ∀ dest, dest ∈ routes ↔ dest ∈ others) :
    routes = others := by
  have perm : routes.Perm others := (List.perm_ext_iff_of_nodup
    (sorted.imp fun less => less.ne) (sorted'.imp fun less => less.ne)).mpr same
  exact perm.eq_of_pairwise (fun _ _ _ _ less more => absurd (less.trans more) (lt_irrefl _))
    sorted sorted'

theorem Ascending.insert {routes : List IpPrefix} {new : IpPrefix} (sorted : Ascending routes)
    (fresh : new ∉ routes) : Ascending (bgpInsertRoute routes new) := by
  have upTo : (bgpInsertRoute routes new).Pairwise (· ≤ ·) :=
    List.Pairwise.orderedInsert new _ (sorted.imp le_of_lt)
  have alone : (bgpInsertRoute routes new).Nodup :=
    (List.perm_orderedInsert (· ≤ ·) new routes).nodup_iff.mpr
      (List.nodup_cons.mpr ⟨fresh, sorted.imp fun less => less.ne⟩)
  exact upTo.imp₂ (fun _ _ upTo other => lt_of_le_of_ne upTo other) alone

theorem isCovered_of_mem {dest : IpPrefix} {routes : List IpPrefix} (sorted : Ascending routes)
    (member : dest ∈ routes) : isCovered dest routes = true := by
  induction routes with
  | nil => exact nomatch member
  | cons route routes ih =>
      rw [isCovered]
      rcases List.mem_cons.mp member with rfl | later
      · rw [if_pos rfl]
      · have before := sorted.head_lt dest later
        rw [if_neg before.ne, if_neg (not_lt.mpr before.le)]
        exact ih (List.pairwise_cons.mp sorted).2 later

theorem removeRoute_sublist {dest : IpPrefix} {routes rest : List IpPrefix}
    (removed : removeRoute dest routes = some rest) : rest.Sublist routes := by
  induction routes generalizing rest with
  | nil => exact nomatch removed
  | cons route routes ih =>
      rw [removeRoute] at removed
      split_ifs at removed
      · exact Option.some.inj removed ▸ List.sublist_cons_self route routes
      · obtain ⟨shorter, found, rfl⟩ := Option.map_eq_some_iff.mp removed
        exact (ih found).cons_cons route

/-- What the loop has done with the lists so far. The routes of `passed` are the wanted ones that
it has gone over. -/
structure Merges (have_ want passed : List IpPrefix) (diff : Differences) : Prop where
  sorted : Ascending diff.routes
  had : ∀ dest, dest ∈ have_ ↔ dest ∈ diff.routes ∨ dest ∈ diff.withdrawn
  apart : ∀ dest ∈ diff.withdrawn, dest ∉ diff.routes
  wanted : want = passed ++ diff.want
  ahead : ∀ dest ∈ passed, ∀ other ∈ diff.have_, dest < other
  behind : ∀ dest ∈ diff.kept ++ diff.withdrawn, ∀ other ∈ diff.want, dest < other
  unwanted : ∀ dest ∈ diff.withdrawn, dest ∉ want
  added : ∀ dest ∈ diff.add, dest ∈ want ∧ dest ∉ have_
  more : diff.more = true → diff.add.isSome

namespace Merges

variable {passed : List IpPrefix}

theorem first_alone (merges : Merges have_ want passed diff) (first : diff.have_ = route :: rest) :
    route ∉ diff.kept ++ rest := by
  have sorted := merges.sorted
  rw [Ascending, Differences.routes, first, List.pairwise_append] at sorted
  obtain ⟨-, later, earlier⟩ := sorted
  intro member
  rcases List.mem_append.mp member with kept | after
  · exact lt_irrefl _ (earlier route kept route List.mem_cons_self)
  · exact lt_irrefl _ (Ascending.head_lt later route after)

/-- A route is withdrawn. -/
theorem withdraw (merges : Merges have_ want passed diff) (first : diff.have_ = route :: rest)
    (before : ∀ dest ∈ diff.want, route < dest) :
    Merges have_ want passed
      { diff with have_ := rest, withdrawn := diff.withdrawn ++ [route] } := by
  have alone := merges.first_alone first
  have shorter : (diff.kept ++ rest).Sublist diff.routes := by
    rw [Differences.routes, first]
    exact (List.sublist_cons_self route rest).append_left diff.kept
  have mem_routes : ∀ dest, dest ∈ diff.routes ↔ dest = route ∨ dest ∈ diff.kept ++ rest := by
    intro dest
    rw [Differences.routes, first]
    simp only [List.mem_append, List.mem_cons]
    tauto
  refine ⟨merges.sorted.sublist shorter, fun dest => ?_, fun dest removed kept => ?_,
    merges.wanted, fun dest gone other later => ?_, fun dest left other wants => ?_,
    fun dest removed member => ?_, merges.added, merges.more⟩
  · rw [merges.had, mem_routes, Differences.routes, List.mem_append (s := diff.withdrawn),
      List.mem_singleton]
    tauto
  · rcases List.mem_append.mp removed with earlier | last
    · exact merges.apart dest earlier (shorter.subset kept)
    · exact alone (List.mem_singleton.mp last ▸ kept)
  · exact merges.ahead dest gone other (first ▸ List.mem_cons_of_mem route later)
  · rcases List.mem_append.mp left with kept | removed
    · exact merges.behind dest (List.mem_append_left _ kept) other wants
    · rcases List.mem_append.mp removed with earlier | last
      · exact merges.behind dest (List.mem_append_right _ earlier) other wants
      · exact List.mem_singleton.mp last ▸ before other wants
  · rcases List.mem_append.mp removed with earlier | last
    · exact merges.unwanted dest earlier member
    · rw [List.mem_singleton.mp last, merges.wanted] at member
      rcases List.mem_append.mp member with gone | wants
      · exact lt_irrefl _ (merges.ahead route gone route (first ▸ List.mem_cons_self))
      · exact lt_irrefl _ (before route wants)

theorem keep (merges : Merges have_ want passed diff) (first : diff.have_ = route :: rest)
    (same : diff.want = route :: wants) (sorted : Ascending want) :
    Merges have_ want (passed ++ [route])
      { diff with kept := diff.kept ++ [route], have_ := rest, want := wants } := by
  have routes : Differences.routes
      { diff with kept := diff.kept ++ [route], have_ := rest, want := wants } = diff.routes := by
    rw [Differences.routes, Differences.routes, first, List.append_assoc]
    rfl
  have later := merges.sorted
  rw [Ascending, Differences.routes, first, List.pairwise_append] at later
  have wanted := merges.wanted
  rw [same] at wanted
  have next := sorted
  rw [wanted, Ascending, List.pairwise_append] at next
  refine ⟨routes ▸ merges.sorted, fun dest => routes ▸ merges.had dest,
    fun dest removed => routes ▸ merges.apart dest removed, by rw [wanted, List.append_assoc]; rfl,
    fun dest gone other after => ?_, fun dest left other wants => ?_, merges.unwanted, merges.added,
    merges.more⟩
  · rcases List.mem_append.mp gone with earlier | last
    · exact merges.ahead dest earlier other (first ▸ List.mem_cons_of_mem route after)
    · exact List.mem_singleton.mp last ▸ Ascending.head_lt later.2.1 other after
  · have passes : dest ∈ diff.kept ++ diff.withdrawn ∨ dest = route := by
      simp only [List.mem_append, List.mem_singleton] at left ⊢
      tauto
    rcases passes with earlier | rfl
    · exact merges.behind dest earlier other (same ▸ List.mem_cons_of_mem route wants)
    · exact Ascending.head_lt next.2.1 other wants

/-- A wanted route is gone over, and added or not. -/
theorem pass (merges : Merges have_ want passed diff) (first : diff.want = wanted :: wants)
    (before : ∀ dest ∈ diff.have_, wanted < dest) {more : Bool} {add : Option IpPrefix}
    (adds : add = diff.add ∨ add = some wanted) (said : more = true → add.isSome) :
    Merges have_ want (passed ++ [wanted])
      { diff with want := wants, add := add, more := more } := by
  have all := merges.wanted
  rw [first] at all
  refine ⟨merges.sorted, merges.had, merges.apart, by rw [all, List.append_assoc]; rfl,
    fun dest gone other after => ?_, fun dest left other later => ?_, merges.unwanted,
    fun dest added => ?_, said⟩
  · rcases List.mem_append.mp gone with earlier | last
    · exact merges.ahead dest earlier other after
    · exact List.mem_singleton.mp last ▸ before other after
  · exact merges.behind dest left other (first ▸ List.mem_cons_of_mem wanted later)
  · rcases adds with same | new
    · exact merges.added dest (same ▸ added)
    · obtain rfl : wanted = dest := Option.some.inj (new ▸ added)
      refine ⟨all ▸ List.mem_append_right _ List.mem_cons_self, fun known => ?_⟩
      -- what the loop has gone over is before the wanted route, and the rest is behind it
      have position : wanted ∈ diff.kept ++ diff.withdrawn ∨ wanted ∈ diff.have_ := by
        have split := (merges.had wanted).mp known
        simp only [Differences.routes, List.mem_append] at split ⊢
        tauto
      rcases position with gone | left
      · exact lt_irrefl _ (merges.behind wanted gone wanted (first ▸ List.mem_cons_self))
      · exact lt_irrefl _ (before wanted left)

end Merges

/-- One difference. -/
theorem nextDifference_merges {passed : List IpPrefix} (merges : Merges have_ want passed diff)
    (sorted : Ascending want) (found : nextDifference diff = some next) :
    ∃ passed, Merges have_ want passed next := by
  have wants : Ascending diff.want := by
    rw [merges.wanted, Ascending, List.pairwise_append] at sorted
    exact sorted.2.1
  have routes : Ascending diff.have_ := by
    have both := merges.sorted
    rw [Ascending, Differences.routes, List.pairwise_append] at both
    exact both.2.1
  unfold nextDifference at found
  split at found
  · cases found
  · next route rest first none =>
      rw [← Option.some.inj found]
      exact ⟨passed, merges.withdraw first (by simp [none])⟩
  · next wanted others none first =>
      split at found
      · cases found
      · rw [← Option.some.inj found]
        exact ⟨_, merges.pass first (by simp [none]) (.inr rfl) fun _ => rfl⟩
  · next route rest wanted others first second =>
      rw [second] at wants
      rw [first] at routes
      by_cases before : route < wanted
      · rw [if_pos before] at found
        rw [← Option.some.inj found]
        refine ⟨passed, merges.withdraw first fun dest member => ?_⟩
        rw [second] at member
        rcases List.mem_cons.mp member with rfl | later
        · exact before
        · exact before.trans (wants.head_lt dest later)
      rw [if_neg before] at found
      by_cases same : route = wanted
      · rw [if_pos same] at found
        rw [← Option.some.inj found]
        exact ⟨_, merges.keep first (same ▸ second) sorted⟩
      rw [if_neg same] at found
      have behind : ∀ dest ∈ diff.have_, wanted < dest := by
        have after : wanted < route := lt_of_le_of_ne (not_lt.mp before) (Ne.symm same)
        intro dest member
        rw [first] at member
        rcases List.mem_cons.mp member with rfl | later
        · exact after
        · exact after.trans (routes.head_lt dest later)
      split at found
      · next adding =>
          rw [← Option.some.inj found]
          exact ⟨_, merges.pass second behind (.inl rfl) fun _ => adding⟩
      · rw [← Option.some.inj found]
        exact ⟨_, merges.pass second behind (.inr rfl) fun _ => rfl⟩

theorem Merges.start (sorted : Ascending have_) :
    Merges have_ want [] (.start have_ want) where
  sorted := sorted
  had _ := (or_iff_left nofun).symm
  apart := nofun
  wanted := rfl
  ahead := nofun
  behind := nofun
  unwanted := nofun
  added := nofun
  more := nofun

/-- **The loop merges.** -/
theorem findDifferences_merges (sorted : Ascending have_) (sorted' : Ascending want) (room : Nat) :
    ∃ passed, Merges have_ want passed (findDifferences room (.start have_ want)) :=
  @findDifferences_induction (fun diff => ∃ passed, Merges have_ want passed diff) room
    (fun _ _ found ⟨_, merges⟩ => nextDifference_merges merges sorted' found) _
    ⟨[], .start sorted⟩

theorem findDifferences_stops (room : Nat) (diff : Differences) :
    room ≤ (findDifferences room diff).withdrawnLen ∨
      nextDifference (findDifferences room diff) = none := by
  fun_induction findDifferences room diff with
  | case1 diff within next found ih => exact ih
  | case2 diff within found => exact .inr found
  | case3 diff full => exact .inl (not_lt.mp full)

theorem findDifferences_progress {room : Nat} (some : 0 < room) (sorted : Ascending have_)
    (sorted' : Ascending want)
    (left : (findDifferences room (.start have_ want)).unfinished = true) :
    (findDifferences room (.start have_ want)).withdrawnLen ≠ 0 ∨
      (findDifferences room (.start have_ want)).add ≠ none := by
  obtain ⟨passed, merges⟩ := findDifferences_merges sorted sorted' room
  have stops := findDifferences_stops room (.start have_ want)
  generalize findDifferences room (.start have_ want) = diff at left merges stops
  rcases stops with full | finished
  · exact .inl (some.trans_le full).ne'
  refine .inr fun none => ?_
  have one : diff.more = false := by
    rw [← Bool.not_eq_true]
    intro more
    have adding := merges.more more
    rw [none] at adding
    cases adding
  rw [Differences.unfinished, one] at left
  unfold nextDifference at finished
  split at finished
  · next first second =>
      rw [first, second] at left
      cases left
  · cases finished
  · rw [none] at finished
    cases finished
  · split_ifs at finished

theorem nextDifference_withdrawn (found : nextDifference diff = some next) :
    next.withdrawn = diff.withdrawn ∨ ∃ route, next.withdrawn = diff.withdrawn ++ [route] := by
  unfold nextDifference at found
  split at found
  · exact nomatch found
  · rw [← Option.some.inj found]
    exact .inr ⟨_, rfl⟩
  · split_ifs at found
    rw [← Option.some.inj found]
    exact .inl rfl
  · split_ifs at found
    · rw [← Option.some.inj found]
      exact .inr ⟨_, rfl⟩
    · rw [← Option.some.inj found]
      exact .inl rfl
    · rw [← Option.some.inj found]
      exact .inl rfl
    · rw [← Option.some.inj found]
      exact .inl rfl

theorem findDifferences_withdrawn (room : Nat) (removed : route ∈ diff.withdrawn) :
    route ∈ (findDifferences room diff).withdrawn := by
  refine @findDifferences_induction (fun diff => route ∈ diff.withdrawn) room
    (fun diff next found member => ?_) diff removed
  rcases nextDifference_withdrawn found with same | ⟨last, longer⟩
  · rwa [same]
  · rw [longer]
    exact List.mem_append_left _ member

theorem findDifferences_withdrawnLen {room most : Nat} (diff : Differences)
    (less : diff.withdrawnLen < room + most)
    (sizes : ∀ dest ∈ (findDifferences room diff).withdrawn, dest.size ≤ most) :
    (findDifferences room diff).withdrawnLen < room + most := by
  fun_induction findDifferences room diff with
  | case1 diff within next found ih =>
      refine ih ?_ sizes
      rcases nextDifference_withdrawn found with same | ⟨route, longer⟩
      · rwa [Differences.withdrawnLen, same]
      · have member : route ∈ (findDifferences room next).withdrawn :=
          findDifferences_withdrawn room (longer ▸ List.mem_append_right _ List.mem_cons_self)
        have size := sizes route member
        rw [Differences.withdrawnLen, longer, List.map_append, List.sum_append]
        simp only [Differences.withdrawnLen, List.map_cons, List.map_nil, List.sum_singleton] at *
        omega
  | case2 diff within found => exact less
  | case3 diff full => exact less

end L2tpns.Bgp
