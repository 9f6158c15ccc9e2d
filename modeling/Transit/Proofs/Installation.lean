import Transit.Proofs.Coherence

/-!
# Installing resolved routes and lines

Installing never fails on a network whose tables agree, provided that the ids are new and the stops
are stations of the network.

* `Network.Extended n n' rs`: `n'` is `n` with the routes `rs` after those it had. Its stations, its
  lines and the time of every edge are those of `n`.
* `Network.Installed n n' l resolved`: the same with the line `l`, whose routes are `resolved`.
-/

namespace Transit

/-- A resolved route of the line `l` as a network stores it. -/
def stored (l : Handle .line) (entry : Route × List (Handle .station)) : StoredRoute where
  id := entry.1.id
  direction := entry.1.direction
  line := l
  stops := entry.2

namespace Network

variable {n n' n'' : Network}

/-- `n'` is `n` with the routes `rs` added, on new or shared edges. -/
structure Extended (n n' : Network) (rs : List StoredRoute) : Prop where
  routed : n'.Routed
  routes : n'.routes.toList = n.routes.toList ++ rs
  bare : n'.bare = { n.bare with routes := n'.routes, routeHandles := n'.routeHandles }
  timeOn : ∀ p, n'.timeOn p = n.timeOn p

namespace Extended

variable {rs rs' : List StoredRoute}

theorem refl (hn : n.Routed) : Extended n n [] where
  routed := hn
  routes := (List.append_nil _).symm
  bare := rfl
  timeOn _ := rfl

theorem trans (h : Extended n n' rs) (h' : Extended n' n'' rs') :
    Extended n n'' (rs ++ rs') where
  routed := h'.routed
  routes := by rw [h'.routes, h.routes, List.append_assoc]
  bare := by rw [h'.bare, h.bare]
  timeOn p := (h'.timeOn p).trans (h.timeOn p)

theorem size_nodes (h : Extended n n' rs) : n'.nodes.size = n.nodes.size := by
  simpa using congrArg (fun m : Network => m.nodes.size) h.bare

theorem lines (h : Extended n n' rs) : n'.lines = n.lines := by
  simpa using congrArg (fun m : Network => m.lines) h.bare

theorem lineHandles (h : Extended n n' rs) : n'.lineHandles = n.lineHandles := by
  simpa using congrArg (fun m : Network => m.lineHandles) h.bare

theorem routeIds (h : Extended n n' rs) : n'.routeIds = n.routeIds ++ rs.map (·.id) := by
  rw [Network.routeIds, h.routes, List.map_append]
  rfl

end Extended

theorem length_routeIds : n.routeIds.length = n.routes.size := by simp [routeIds]

theorem length_lineIds : n.lineIds.length = n.lines.size := by simp [lineIds]

/-- The next handle of the route table is on no edge yet. -/
theorem Routed.next_not_mem_riders (hn : n.Routed) (p : Handle .station × Handle .station) :
    (⟨n.routes.size⟩ : Handle .route) ∉ n.riders p := by
  rw [Roster.mem_def, hn.riders, mem_routesJoining]
  rintro ⟨r, hr, -⟩
  simp at hr

/-- The network with a route in its table, under its id. -/
def pushRoute (n : Network) (r : StoredRoute) : Network :=
  { n with
    routes := n.routes.push r
    routeHandles := n.routeHandles.insert r.id ⟨n.routes.size⟩ }

/-- Storing a route that is on the edges of all of its steps keeps stations, routes and edges in
agreement. -/
theorem Routed.pushRoute (hn : n.Routed) {r : StoredRoute} (hid : r.id ∉ n.routeIds)
    (hs : ∀ s ∈ r.stops, s.index < n.nodes.size)
    (h : Linked n n' ⟨n.routes.size⟩ (steps r.stops)) : (n'.pushRoute r).Routed := by
  obtain ⟨-, -, hroutes, -, hstations, hhandles, -⟩ := bare_eq_iff.1 h.bare
  have hsize := size_nodes_of_bare h.bare
  constructor
  · show n'.stationHandles.Numbers n'.stationIds
    rw [hstations, stationIds_of_bare h.bare]
    exact hn.stationHandles
  · have h := hn.routeHandles.insert hid
    rw [length_routeIds, ← hroutes, ← hhandles] at h
    simpa [Network.pushRoute, routeIds, hroutes] using h
  · exact ⟨h.meshed.nodup, h.meshed.bounded, h.meshed.outbound, h.meshed.inbound⟩
  · show n'.ends = _
    rw [h.ends, hn.ends, Roster.firsts_firsts_append]
    simp [allSteps, Network.pushRoute, hroutes]
  · intro p
    show (n'.riders p).members = _
    -- the handle is on the edges already; only now does the table hold its route
    have hlast : (n'.pushRoute r).routesJoining p =
        n.routesJoining p ++ if Neighbours p.1 p.2 r.stops then [⟨n.routes.size⟩] else [] := by
      by_cases hp : Neighbours p.1 p.2 r.stops <;>
        simp [routesJoining, Network.pushRoute, hroutes, List.zipIdx_append, hp]
    rw [hlast, h.riders]
    by_cases hp : Neighbours p.1 p.2 r.stops
    · rw [if_pos (mem_steps.2 hp), if_pos hp, ← hn.riders,
        Roster.members_insert_of_not_mem (hn.next_not_mem_riders p)]
    · rw [if_neg (fun hm => hp (mem_steps.1 hm)), if_neg hp, List.append_nil, hn.riders]
  · intro p
    show n'.timeOn p.swap = n'.timeOn p
    rw [h.timeOn, h.timeOn, hn.twins]
  · intro r' hr' s hs'
    show s.index < n'.nodes.size
    rw [hsize]
    rw [Network.pushRoute, Array.toList_push, hroutes, List.mem_append, List.mem_singleton] at hr'
    rcases hr' with hr' | rfl
    · exact hn.stops r' hr' s hs'
    · exact hs s hs'

theorem installRoute_ok (hn : n.Routed) {r : Route} {stops : List (Handle .station)}
    (hid : r.id ∉ n.routeIds) (hs : ∀ s ∈ stops, s.index < n.nodes.size) (l : Handle .line) :
    ∃ n', n.installRoute l r stops = .ok n' ∧ Extended n n' [stored l (r, stops)] := by
  obtain ⟨m, hm, h⟩ := linkStops_ok hn.meshed hs ⟨n.routes.size⟩
  obtain ⟨-, -, hroutes, -⟩ := bare_eq_iff.1 h.bare
  refine ⟨m.pushRoute (stored l (r, stops)), ?_, ?_⟩
  · simp only [installRoute]
    rw [hm, ← hroutes]
    rfl
  · constructor
    · exact hn.pushRoute hid hs h
    · simp [pushRoute, hroutes]
    · rw [← h.bare]
      rfl
    · exact h.timeOn

/-- The loop over the routes of a line stores all of them. -/
theorem installRoutes_ok (hn : n.Routed) {resolved : List (Route × List (Handle .station))}
    (hids : (n.routeIds ++ resolved.map (·.1.id)).Nodup)
    (hs : ∀ entry ∈ resolved, ∀ s ∈ entry.2, s.index < n.nodes.size) (l : Handle .line) :
    ∃ n', resolved.foldlM (fun n entry => n.installRoute l entry.1 entry.2) n = .ok n' ∧
      Extended n n' (resolved.map (stored l)) := by
  refine Checked.foldlM_ok (fun done m => Extended n m (done.map (stored l)))
    (Extended.refl hn) ?_
  intro done entry rest m hl hm
  have hentry : entry ∈ resolved := by rw [← hl]; simp
  -- its id is none of those stored by the entries before it
  have hid : entry.1.id ∉ m.routeIds := by
    rw [← hl, List.map_append, List.map_cons, ← List.append_assoc, List.nodup_append] at hids
    intro h
    rw [hm.routeIds, List.map_map] at h
    exact hids.2.2 _ h _ List.mem_cons_self rfl
  obtain ⟨m', hok, h⟩ := installRoute_ok hm.routed hid
    (fun s h => hm.size_nodes ▸ hs entry hentry s h) l
  refine ⟨m', hok, ?_⟩
  rw [List.map_append, List.map_singleton]
  exact hm.trans h

/-! ### The line itself -/

/-- The line that a network stores for its next routes. -/
def storedLine (n : Network) (l : Line) (size : Nat) : StoredLine where
  id := l.id
  name := l.name
  routes := (List.range size).map fun i => ⟨n.routes.size + i⟩

/-- The network with a line in its table, under its id. -/
def pushLine (n : Network) (l : StoredLine) : Network :=
  { n with
    lines := n.lines.push l
    lineHandles := n.lineHandles.insert l.id ⟨n.lines.size⟩ }

/-- `n'` is `n` with a line and its resolved routes added. -/
structure Installed (n n' : Network) (l : Line)
    (resolved : List (Route × List (Handle .station))) : Prop where
  coherent : n'.Coherent
  routes : n'.routes.toList = n.routes.toList ++ resolved.map (stored ⟨n.lines.size⟩)
  lines : n'.lines.toList = n.lines.toList ++ [n.storedLine l resolved.length]
  bare : n'.bare = { n.bare with
    routes := n'.routes
    routeHandles := n'.routeHandles
    lines := n'.lines
    lineHandles := n'.lineHandles }
  timeOn : ∀ p, n'.timeOn p = n.timeOn p

theorem Routed.pushLine (hn : n.Routed) (l : StoredLine) : (n.pushLine l).Routed where
  stationHandles := hn.stationHandles
  routeHandles := hn.routeHandles
  meshed := ⟨hn.meshed.nodup, hn.meshed.bounded, hn.meshed.outbound, hn.meshed.inbound⟩
  ends := hn.ends
  riders := hn.riders
  twins := hn.twins
  stops := hn.stops

theorem handles_add (kind : Kind) (a b : Nat) :
    handles kind (a + b) = handles kind a ++ (List.range b).map fun i => ⟨a + i⟩ := by
  simp [handles, List.range_add]

/-- Once the routes of a line are stored, storing the line makes all tables agree again. -/
theorem Coherent.pushLine (hn : n.Coherent) {l : Line}
    {resolved : List (Route × List (Handle .station))} (hid : l.id ∉ n.lineIds)
    (h : Extended n n' (resolved.map (stored ⟨n.lines.size⟩))) :
    (n'.pushLine (n.storedLine l resolved.length)).Coherent := by
  have hlines := h.lines
  have hhandles := h.lineHandles
  constructor
  · exact h.routed.pushLine _
  · have hins := hn.lineHandles.insert hid
    rw [lineIds, List.length_map, Array.length_toList, ← hlines, ← hhandles] at hins
    simpa [Network.pushLine, lineIds, storedLine] using hins
  · have hsize : n'.routes.size = n.routes.size + resolved.length := by
      simpa using congrArg List.length h.routes
    simp [Network.pushLine, hlines, hn.lineRoutes, hsize, handles_add, storedLine]
  · intro l' line hline r hr
    show ∃ route, n'.routes[r.index]? = some route ∧ route.line = l'
    rw [← Array.getElem?_toList, h.routes]
    rw [Network.pushLine, hlines, Array.getElem?_push] at hline
    split at hline
    · -- the new line, whose routes are the new ones
      rename_i hl
      obtain rfl : n.storedLine l resolved.length = line := by simpa using hline
      obtain ⟨i, hi, rfl⟩ := List.mem_map.1 hr
      rw [List.mem_range] at hi
      refine ⟨stored ⟨n.lines.size⟩ resolved[i], ?_, ?_⟩
      · rw [List.getElem?_append_right (by simp)]
        simp [hi]
      · rw [stored, ← hl]
    · obtain ⟨route, hroute, hback⟩ := hn.routeLines l' line hline r hr
      refine ⟨route, ?_, hback⟩
      rw [List.getElem?_append_left (by simpa using (Array.getElem?_eq_some_iff.1 hroute).1)]
      simpa using hroute

/-- Installing a resolved line whose ids are new succeeds. -/
theorem installLine_ok (hn : n.Coherent) {l : Line}
    {resolved : List (Route × List (Handle .station))} (hid : l.id ∉ n.lineIds)
    (hids : (n.routeIds ++ resolved.map (·.1.id)).Nodup)
    (hs : ∀ entry ∈ resolved, ∀ s ∈ entry.2, s.index < n.nodes.size) :
    ∃ n', n.installLine l resolved = .ok n' ∧ Installed n n' l resolved := by
  obtain ⟨m, hm, h⟩ := installRoutes_ok hn.toRouted hids hs ⟨n.lines.size⟩
  have hlines := h.lines
  refine ⟨m.pushLine (n.storedLine l resolved.length), ?_, ?_⟩
  · simp only [installLine]
    rw [hm, ← hlines]
    rfl
  · constructor
    · exact hn.pushLine hid h
    · exact h.routes
    · simp [pushLine, hlines]
    · have hbare : (m.pushLine (n.storedLine l resolved.length)).bare =
          m.bare.pushLine (n.storedLine l resolved.length) := rfl
      rw [hbare, h.bare]
      simp [pushLine, hlines, h.lineHandles]
    · exact h.timeOn

end Network

end Transit
