import Transit.Network.Ledger
import Transit.Proofs.Coherence

/-!
# Looking things up succeeds

On a coherent network every handle that a query follows is in its table. `findRoute?_ok`,
`routeOnLine?_ok` and `routesOfLine_eq` also say which routes are found; the other queries are shown
to answer.
-/

namespace Transit.Network

variable {n : Network}

/-! ### Routes by id -/

theorem findRoute?_ok (hn : n.Coherent) (id : String) :
    ∃ found, n.findRoute? id = .ok found ∧
      ∀ x, found = some x ↔ x ∈ n.routes.toList ∧ x.id = id := by
  unfold findRoute?
  cases hr : n.route? id with
  | none =>
    refine ⟨none, rfl, fun x => iff_of_false nofun ?_⟩
    rintro ⟨hx, rfl⟩
    exact hn.routeHandles.get?_eq_none_iff.1 hr (List.mem_map_of_mem hx)
  | some r =>
    obtain ⟨x, hx, hid⟩ := hn.route?_iff.1 hr
    refine ⟨some x, ?_, fun y => ?_⟩
    · simp only [route_eq_ok_iff.2 hx, Checked.ok_bind]
      rfl
    · have hmem : x ∈ n.routes.toList := mem_toList_of_getElem? hx
      constructor
      · rintro ⟨rfl⟩
        exact ⟨hmem, hid⟩
      · rintro ⟨hy, hyid⟩
        exact congrArg some
          (List.inj_on_of_nodup_map hn.routeHandles.nodup hmem hy (hid.trans hyid.symm))

theorem findRoute?_stored (hn : n.Coherent) {x : StoredRoute} (hx : x ∈ n.routes.toList) :
    n.findRoute? x.id = .ok (some x) := by
  obtain ⟨found, hfound, hiff⟩ := findRoute?_ok hn x.id
  rw [hfound, (hiff x).2 ⟨hx, rfl⟩]

/-- A stored route is listed by the line that it names. -/
theorem Coherent.exists_listing (hn : n.Coherent) {r : Handle .route} {x : StoredRoute}
    (hx : n.routes[r.index]? = some x) :
    ∃ line, n.lines[x.line.index]? = some line ∧ r ∈ line.routes := by
  have hlisted : r ∈ n.lines.toList.flatMap (·.routes) := by
    rw [hn.lineRoutes, handles]
    exact List.mem_map_of_mem (List.mem_range.2 (Array.getElem?_eq_some_iff.1 hx).1)
  obtain ⟨line, hline, hr⟩ := List.mem_flatMap.1 hlisted
  obtain ⟨k, hk⟩ := List.mem_iff_getElem?.1 hline
  rw [Array.getElem?_toList] at hk
  obtain ⟨x', hx', hback⟩ := hn.routeLines ⟨k⟩ line hk r hr
  obtain rfl : x = x' := by rw [← Option.some.injEq, ← hx, hx']
  exact ⟨line, by rw [hback, hk], hr⟩

/-- A line lists the routes that name it, and no others. -/
theorem Coherent.mem_line_routes (hn : n.Coherent) {l : Handle .line} {line : StoredLine}
    (hline : n.lines[l.index]? = some line) {r : Handle .route} :
    r ∈ line.routes ↔ ∃ x, n.routes[r.index]? = some x ∧ x.line = l := by
  constructor
  · intro hr
    exact hn.routeLines l line hline r hr
  · rintro ⟨x, hx, rfl⟩
    obtain ⟨line', hline', hr⟩ := hn.exists_listing hx
    rw [hline, Option.some.injEq] at hline'
    exact hline' ▸ hr

/-- The line that a stored route names is in the table. -/
theorem Coherent.exists_line (hn : n.Coherent) {x : StoredRoute} (hx : x ∈ n.routes.toList) :
    ∃ line, n.lines[x.line.index]? = some line := by
  obtain ⟨i, hi⟩ := List.mem_iff_getElem?.1 hx
  rw [Array.getElem?_toList] at hi
  obtain ⟨line, hline, -⟩ := hn.exists_listing (r := ⟨i⟩) hi
  exact ⟨line, hline⟩

theorem routeOnLine?_ok (hn : n.Coherent) (line route : String) :
    ∃ found, n.routeOnLine? line route = .ok found ∧ ∀ x, found = some x ↔
      x ∈ n.routes.toList ∧ x.id = route ∧ (n.lines[x.line.index]?).map (·.id) = some line := by
  obtain ⟨found, hfound, hiff⟩ := findRoute?_ok hn route
  unfold routeOnLine?
  rw [hfound, Checked.ok_bind]
  cases found with
  | none =>
    refine ⟨none, rfl, fun x => iff_of_false nofun ?_⟩
    rintro ⟨hx, hid, -⟩
    exact nomatch (hiff x).2 ⟨hx, hid⟩
  | some r =>
    obtain ⟨hr, hid⟩ := (hiff r).1 rfl
    obtain ⟨l, hl⟩ := hn.exists_line hr
    refine ⟨if l.id = line then some r else none, ?_, fun x => ?_⟩
    · simp only [line_eq_ok_iff.2 hl, Checked.ok_bind]
      rfl
    · constructor
      · intro hx
        rw [Option.ite_none_right_eq_some, Option.some.injEq] at hx
        obtain ⟨rfl, rfl⟩ := hx
        exact ⟨hr, hid, by rw [hl, Option.map_some]⟩
      · rintro ⟨hx, hxid, hxl⟩
        obtain rfl : r = x := Option.some.inj ((hiff x).2 ⟨hx, hxid⟩)
        rw [hl, Option.map_some, Option.some.injEq] at hxl
        rw [if_pos hxl]

/-! ### Every other query answers -/

section Answers

theorem stationName?_ok (hn : n.Coherent) (id : String) : ∃ t, n.stationName? id = .ok t := by
  unfold stationName?
  cases hs : n.station? id with
  | none => exact ⟨none, rfl⟩
  | some s =>
    obtain ⟨x, hx, -⟩ := hn.station?_iff.1 hs
    exact ⟨some x.name, by simp only [node_eq_ok_iff.2 hx, Checked.ok_bind]; rfl⟩

theorem lineName?_eq (hn : n.Coherent) {l : Handle .line} {line : StoredLine}
    (hline : n.lines[l.index]? = some line) : n.lineName? line.id = .ok (some line.name) := by
  unfold lineName?
  rw [hn.line?_iff.2 ⟨line, hline, rfl⟩]
  simp only [line_eq_ok_iff.2 hline, Checked.ok_bind]
  rfl

theorem lineName?_ok (hn : n.Coherent) (id : String) : ∃ t, n.lineName? id = .ok t := by
  cases hl : n.line? id with
  | none => exact ⟨none, by rw [lineName?, hl]; rfl⟩
  | some l =>
    obtain ⟨x, hx, rfl⟩ := hn.line?_iff.1 hl
    exact ⟨some x.name, lineName?_eq hn hx⟩

theorem routeDirection?_ok (hn : n.Coherent) (id : String) :
    ∃ t, n.routeDirection? id = .ok t := by
  obtain ⟨found, hfound, -⟩ := findRoute?_ok hn id
  exact ⟨found.map (·.direction), by rw [routeDirection?, hfound]; rfl⟩

/-- The routes of a line are asked for by the handles that it lists. -/
theorem routesOfLine_eq (hn : n.Coherent) {l : Handle .line} {line : StoredLine}
    (hline : n.lines[l.index]? = some line) :
    n.routesOfLine line.id = .ok (line.routes.filterMap n.routeId?) := by
  unfold routesOfLine
  rw [hn.line?_iff.2 ⟨line, hline, rfl⟩]
  simp only [line_eq_ok_iff.2 hline, Checked.ok_bind]
  refine Checked.mapM_eq_filterMap fun r hr => ?_
  obtain ⟨x, hx, -⟩ := hn.routeLines l line hline r hr
  refine ⟨x.id, by rw [routeId?, hx, Option.map_some], ?_⟩
  rw [route_eq_ok_iff.2 hx, Checked.ok_bind]
  rfl

theorem routesOfLine_unknown {id : String} (hl : n.line? id = none) :
    n.routesOfLine id = .ok [] := by
  unfold routesOfLine
  rw [hl]
  rfl

/-- The ids listed for a line are those of the stored routes that name it. -/
theorem mem_routesOfLine_iff (hn : n.Coherent) {line : String} {ids : List String}
    (h : n.routesOfLine line = .ok ids) {route : String} :
    route ∈ ids ↔ ∃ x ∈ n.routes.toList, x.id = route ∧
      (n.lines[x.line.index]?).map (·.id) = some line := by
  cases hl : n.line? line with
  | none =>
    rw [routesOfLine_unknown hl, Except.ok.injEq] at h
    refine iff_of_false (h ▸ List.not_mem_nil) ?_
    rintro ⟨x, -, -, hline⟩
    obtain ⟨k, hk, hid⟩ := Option.map_eq_some_iff.1 hline
    rw [hn.line?_iff.2 ⟨k, hk, hid⟩] at hl
    cases hl
  | some l =>
    obtain ⟨k, hk, rfl⟩ := hn.line?_iff.1 hl
    rw [routesOfLine_eq hn hk, Except.ok.injEq] at h
    rw [← h, List.mem_filterMap]
    constructor
    · rintro ⟨r, hr, hid⟩
      obtain ⟨x, hx, hback⟩ := (hn.mem_line_routes hk).1 hr
      rw [routeId?, hx, Option.map_some, Option.some.injEq] at hid
      exact ⟨x, mem_toList_of_getElem? hx, hid, by rw [hback, hk, Option.map_some]⟩
    · rintro ⟨x, hx, rfl, hline⟩
      obtain ⟨i, hi⟩ := List.mem_iff_getElem?.1 hx
      rw [Array.getElem?_toList] at hi
      obtain ⟨k', hk', hid⟩ := Option.map_eq_some_iff.1 hline
      -- lines with one id are one line
      have hback : x.line = l := by
        rw [hn.line?_iff.2 ⟨k', hk', hid⟩, Option.some.injEq] at hl
        exact hl
      exact ⟨⟨i⟩, (hn.mem_line_routes hk).2 ⟨x, hi, hback⟩, by rw [routeId?, hi, Option.map_some]⟩

theorem routesOfLine_ok (hn : n.Coherent) (id : String) : ∃ ts, n.routesOfLine id = .ok ts := by
  cases hl : n.line? id with
  | none => exact ⟨[], routesOfLine_unknown hl⟩
  | some l =>
    obtain ⟨line, hline, rfl⟩ := hn.line?_iff.1 hl
    exact ⟨_, routesOfLine_eq hn hline⟩

/-- The edges that touch a station are in the table. -/
theorem Coherent.incident_lt (hn : n.Coherent) {x : Handle .station} {node : Node}
    (hx : n.nodes[x.index]? = some node) {e : Handle .edge} (he : e ∈ node.incident) :
    e.index < n.edges.size := by
  have hends : ∃ p, n.ends[e.index]? = some p := by
    rcases List.mem_append.1 he with he | he
    · obtain ⟨⟨y, e⟩, hm, rfl⟩ := List.mem_map.1 he
      rw [← Directory.get?_eq_some_iff, hn.meshed.outbound_get?_iff hx] at hm
      exact ⟨_, hm⟩
    · obtain ⟨⟨y, e⟩, hm, rfl⟩ := List.mem_map.1 he
      rw [← Directory.get?_eq_some_iff, hn.meshed.inbound_get?_iff hx] at hm
      exact ⟨_, hm⟩
  obtain ⟨p, hp⟩ := hends
  rw [← length_ends]
  exact (List.getElem?_eq_some_iff.1 hp).1

/-- The routes on an edge are in the table. -/
theorem Coherent.exists_rider (hn : n.Coherent) {e : Edge} (he : e ∈ n.edges.toList)
    {r : Handle .route} (hr : r ∈ e.routes.members) : ∃ route, n.routes[r.index]? = some route := by
  rw [← riders_ends hn.meshed.nodup he, hn.riders, mem_routesJoining] at hr
  obtain ⟨route, hroute, -⟩ := hr
  exact ⟨route, hroute⟩

theorem routesServing_ok (hn : n.Coherent) (station : String) :
    ∃ ts, n.routesServing station = .ok ts := by
  unfold routesServing
  cases hs : n.station? station with
  | none => exact ⟨[], rfl⟩
  | some s =>
    obtain ⟨node, hnode, -⟩ := hn.station?_iff.1 hs
    obtain ⟨edges, hedges, hall⟩ := Checked.mapM_ok (l := node.incident) (f := n.edge)
      (P := (· ∈ n.edges.toList)) fun e he => by
        have hlt := Array.getElem?_eq_getElem (hn.incident_lt hnode he)
        exact ⟨_, edge_eq_ok_iff.2 hlt, mem_toList_of_getElem? hlt⟩
    obtain ⟨ids, hids, -⟩ := Checked.mapM_ok (P := fun _ => True)
      (l := (Roster.ofList (edges.flatMap (·.routes.members))).members)
      (f := fun r => do return (← n.route r).id) fun r hr => by
        rw [← Roster.mem_def, Roster.mem_ofList, List.mem_flatMap] at hr
        obtain ⟨e, he, hr⟩ := hr
        obtain ⟨route, hroute⟩ := hn.exists_rider (hall e he) hr
        exact ⟨route.id, by simp only [route_eq_ok_iff.2 hroute, Checked.ok_bind]; rfl, trivial⟩
    exact ⟨ids, by simp only [node_eq_ok_iff.2 hnode, Checked.ok_bind, hedges, hids]⟩

theorem stopPosition?_ok (hn : n.Coherent) (station route : String) :
    ∃ p, n.stopPosition? station route = .ok p := by
  obtain ⟨found, hfound, -⟩ := findRoute?_ok hn route
  unfold stopPosition?
  rw [hfound, Checked.ok_bind]
  cases found with
  | none => exact ⟨none, rfl⟩
  | some r => exact ⟨_, rfl⟩

theorem stopNumber_ok (hn : n.Coherent) (station route : String) :
    ∃ i, n.stopNumber station route = .ok i := by
  obtain ⟨p, hp⟩ := stopPosition?_ok hn station route
  exact ⟨p.getD 0, by rw [stopNumber, hp]; rfl⟩

theorem direction_ok (hn : n.Coherent) (a b route : String) :
    ∃ d, n.direction a b route = .ok d := by
  obtain ⟨i, hi⟩ := stopNumber_ok hn a route
  obtain ⟨j, hj⟩ := stopNumber_ok hn b route
  exact ⟨.between i j, by rw [direction, hi, hj]; rfl⟩

theorem passengerCount_ok (hn : n.Coherent) (station : String) :
    ∃ c, n.passengerCount station = .ok c := by
  unfold passengerCount
  cases hs : n.station? station with
  | none => exact ⟨_, rfl⟩
  | some s =>
    obtain ⟨x, hx, -⟩ := hn.station?_iff.1 hs
    exact ⟨.ok x.passengers, by simp only [node_eq_ok_iff.2 hx, Checked.ok_bind]; rfl⟩

end Answers

end Transit.Network
