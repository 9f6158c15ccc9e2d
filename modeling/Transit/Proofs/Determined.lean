import Transit.Proofs.Contents

/-!
# What determines a network

* `Coherent.ext`: coherent networks are equal when their settings are, and their stations but for
  the edges, their routes, their lines, and the times of their edges.
* `SameGraph h h'`: two histories bring the same stations, lines and last times. Networks that hold
  them are equal in everything but the passengers (`Holds.sansPassengers_eq`).
* `Agree h h'`: besides, they bring the same balances.
* `Holds.unique`: networks whose histories agree are equal in every field, in whatever order the
  calls were made.
-/

namespace Transit

attribute [ext] Edge Node StoredRoute StoredLine Network

/-- The histories bring the same stations and lines in the same order, and set the same times
last. -/
structure SameGraph (h h' : List Call) : Prop where
  stations : stationsOf h = stationsOf h'
  lines : linesOf h = linesOf h'
  times : ∀ a b, lastTime h a b = lastTime h' a b

/-- The histories bring the same stations and lines in the same order, set the same times last, and
leave the same passengers. -/
structure Agree (h h' : List Call) : Prop where
  stations : stationsOf h = stationsOf h'
  lines : linesOf h = linesOf h'
  times : ∀ a b, lastTime h a b = lastTime h' a b
  balances : ∀ station, balance h station = balance h' station

theorem Agree.sameGraph {h h' : List Call} (hh : Agree h h') : SameGraph h h' :=
  ⟨hh.stations, hh.lines, hh.times⟩

namespace Network

variable {n n' : Network} {config : Config} {h h' : List Call}

/-! ### From the tables -/

/-- The edge table lists the ends of the edges, with the routes and the time of each. -/
theorem edges_eq (hn : n.ends.Nodup) :
    n.edges.toList = n.ends.map fun p =>
      { source := p.1, target := p.2, routes := n.riders p, time := n.timeOn p } := by
  rw [ends, List.map_map]
  refine (List.map_id _).symm.trans (List.map_congr_left fun e he => ?_)
  ext1
  · rfl
  · rfl
  · exact (riders_ends hn he).symm
  · exact (timeOn_ends hn he).symm

/-- The directories at a station follow from the ends of the edges. -/
theorem Meshed.nodes_eq (hn : n.Meshed) (hn' : n'.Meshed)
    (hnodes : n.nodes.map Node.bare = n'.nodes.map Node.bare) (hends : n.ends = n'.ends) :
    n.nodes = n'.nodes := by
  apply Array.ext_getElem?
  intro i
  have hi := congrArg (fun xs : Array Node => xs[i]?) hnodes
  simp only [Array.getElem?_map] at hi
  cases hx : n.nodes[i]? with
  | none =>
    rw [hx, Option.map_none] at hi
    exact (Option.map_eq_none_iff.1 hi.symm).symm
  | some x =>
    rw [hx, Option.map_some] at hi
    obtain ⟨x', hx', hbare⟩ := Option.map_eq_some_iff.1 hi.symm
    obtain ⟨hid, hname, -, -, hpassengers⟩ := Node.mk.inj hbare
    have hout := hn.outbound ⟨i⟩ x hx
    have hin := hn.inbound ⟨i⟩ x hx
    rw [hends, ← hn'.outbound ⟨i⟩ x' hx'] at hout
    rw [hends, ← hn'.inbound ⟨i⟩ x' hx'] at hin
    rw [hx', Option.some.injEq]
    exact Node.ext hid.symm hname.symm (Directory.ext hout) (Directory.ext hin) hpassengers.symm

/-- Apart from the edges' times, everything about edges follows from the routes, and every table of
ids from the entries that it points into. -/
theorem Coherent.ext (hn : n.Coherent) (hn' : n'.Coherent) (hconfig : n.config = n'.config)
    (hnodes : n.nodes.map Node.bare = n'.nodes.map Node.bare) (hroutes : n.routes = n'.routes)
    (hlines : n.lines = n'.lines) (htimes : ∀ p, n.timeOn p = n'.timeOn p) : n = n' := by
  have hends : n.ends = n'.ends := by
    rw [hn.ends, hn'.ends, allSteps, allSteps, hroutes]
  have hriders : ∀ p, n.riders p = n'.riders p := fun p => Roster.ext <| by
    rw [hn.riders, hn'.riders, routesJoining, routesJoining, hroutes]
  have hedges : n.edges = n'.edges := by
    apply Array.toList_inj.1
    rw [edges_eq hn.meshed.nodup, edges_eq hn'.meshed.nodup, hends]
    simp only [hriders, htimes]
  have hnodes' : n.nodes = n'.nodes := hn.meshed.nodes_eq hn'.meshed hnodes hends
  have hstations : n.stationIds = n'.stationIds := by rw [stationIds, stationIds, hnodes']
  have hrouteIds : n.routeIds = n'.routeIds := by rw [routeIds, routeIds, hroutes]
  have hlineIds : n.lineIds = n'.lineIds := by rw [lineIds, lineIds, hlines]
  exact Network.ext hconfig hnodes' hedges hroutes hlines
    (hn.stationHandles.unique (hstations ▸ hn'.stationHandles))
    (hn.routeHandles.unique (hrouteIds ▸ hn'.routeHandles))
    (hn.lineHandles.unique (hlineIds ▸ hn'.lineHandles))

/-! ### From the histories -/

theorem getElem?_lineIds (n : Network) (l : Handle .line) :
    n.lineIds[l.index]? = (n.lines[l.index]?).map (·.id) := by
  simp [lineIds]

theorem getElem?_routeIds (n : Network) (r : Handle .route) :
    n.routeIds[r.index]? = n.routeId? r := by
  simp [routeIds, routeId?]

/-- Where ids are distinct, a position is known by its id. -/
theorem index_eq_of_getElem? {kind : Kind} {ids : List String} (hnodup : ids.Nodup) {id : String}
    {a b : Handle kind} (ha : ids[a.index]? = some id) (hb : ids[b.index]? = some id) : a = b := by
  obtain ⟨hlt, -⟩ := List.getElem?_eq_some_iff.1 ha
  exact Handle.index_inj.1 ((List.getElem?_inj hlt hnodup).1 (ha.trans hb.symm))

/-- What is stored for a route follows from its descriptor, the stations and the lines. -/
theorem Stores.unique (hstations : n.stationHandles = n'.stationHandles)
    (hlines : n.lineIds = n'.lineIds) (hnodup : n.lineIds.Nodup) {x x' : StoredRoute}
    {entry : Line × Route} (hx : n.Stores x entry) (hx' : n'.Stores x' entry) : x = x' := by
  have hline : n.lineIds[x.line.index]? = some entry.1.id := by rw [getElem?_lineIds, hx.line]
  have hline' : n.lineIds[x'.line.index]? = some entry.1.id := by
    rw [hlines, getElem?_lineIds, hx'.line]
  have hstops : x.stops.map some = x'.stops.map some := by
    rw [hx.stops, hx'.stops]
    unfold station?
    rw [hstations]
  apply StoredRoute.ext
  · rw [hx.id, hx'.id]
  · rw [hx.direction, hx'.direction]
  · exact index_eq_of_getElem? hnodup hline hline'
  · exact List.map_injective_iff.2 (fun _ _ => Option.some.inj) hstops

/-- What is stored for a line follows from its descriptor and the routes. -/
theorem KeepsLine.unique (hroutes : n.routes = n'.routes) (hnodup : n.routeIds.Nodup)
    {x x' : StoredLine} {l : Line} (hx : n.KeepsLine x l) (hx' : n'.KeepsLine x' l) : x = x' := by
  apply StoredLine.ext
  · rw [hx.id, hx'.id]
  · rw [hx.name, hx'.name]
  · refine eq_of_forall₂ (fun r r' route hr hr' => ?_) (map_eq_map_iff_forall₂.1 hx.routes)
      (map_eq_map_iff_forall₂.1 hx'.routes)
    rw [← getElem?_routeIds] at hr hr'
    have hsame : n.routeIds = n'.routeIds := by rw [routeIds, routeIds, hroutes]
    exact index_eq_of_getElem? hnodup hr (hsame ▸ hr')

/-- The time of an edge is that between the ids of its ends. -/
theorem timeBetween_eq_timeOn (hn : n.Coherent) {a b : String} {x y : Handle .station}
    (ha : n.stationIds[x.index]? = some a) (hb : n.stationIds[y.index]? = some b) :
    n.timeBetween a b = n.timeOn (x, y) := by
  have hx : n.station? a = some x := hn.stationHandles.get?_iff.2 ha
  have hy : n.station? b = some y := hn.stationHandles.get?_iff.2 hb
  rw [timeBetween, hx, hy]

/-- Times between ids leave no choice for the times of edges. -/
theorem timeOn_eq_of_timeBetween (hn : n.Coherent) (hn' : n'.Coherent)
    (hstations : n.stationIds = n'.stationIds)
    (htimes : ∀ a b, n.timeBetween a b = n'.timeBetween a b)
    (p : Handle .station × Handle .station) : n.timeOn p = n'.timeOn p := by
  obtain ⟨x, y⟩ := p
  by_cases hp : x.index < n.stationIds.length ∧ y.index < n.stationIds.length
  · obtain ⟨a, ha⟩ : ∃ a, n.stationIds[x.index]? = some a := ⟨_, List.getElem?_eq_getElem hp.1⟩
    obtain ⟨b, hb⟩ : ∃ b, n.stationIds[y.index]? = some b := ⟨_, List.getElem?_eq_getElem hp.2⟩
    rw [← timeBetween_eq_timeOn hn ha hb, htimes, timeBetween_eq_timeOn hn' (hstations ▸ ha)
      (hstations ▸ hb)]
  · -- no edge leads to or from a handle without an id
    have hzero : ∀ {m : Network}, m.Coherent → m.stationIds = n.stationIds →
        m.timeOn (x, y) = 0 := by
      intro m hm hids
      refine timeOn_eq_zero fun hmem => hp ?_
      have hbound := hm.meshed.bounded (x, y) hmem
      rwa [← length_stationIds, hids] at hbound
    rw [hzero hn rfl, hzero hn' hstations.symm]

/-- The id of every station with the passengers there. -/
def counters (n : Network) : List (String × Int) := n.nodes.toList.map fun x => (x.id, x.passengers)

theorem Holds.counters_eq (hn : n.Holds config h) :
    n.counters = (stationsOf h).map fun s => (s.id, balance h s.id) := by
  have hnames : n.counters = (n.nodes.toList.map fun x => (x.id, x.name)).map fun p =>
      (p.1, balance h p.1) := by
    rw [counters, List.map_map]
    refine List.map_congr_left fun x hx => ?_
    rw [hn.passengers x hx]
    rfl
  rw [hnames, hn.names, List.map_map]
  rfl

/-- The stations are those without passengers, each with its counter. -/
theorem nodes_eq_zipWith (n : Network) : n.nodes.toList =
    List.zipWith (fun x p => { x with passengers := p.2 }) n.sansPassengers.nodes.toList
      n.counters := by
  rw [counters, sansPassengers, Array.toList_map, List.zipWith_map, List.zipWith_self]
  exact (List.map_id _).symm

/-- Apart from the counters, there is nothing about passengers in a network. -/
theorem eq_of_sansPassengers (h : n.sansPassengers = n'.sansPassengers)
    (hcounters : n.counters = n'.counters) : n = n' := by
  have hnodes : n.nodes = n'.nodes := by
    rw [← Array.toList_inj, nodes_eq_zipWith n, nodes_eq_zipWith n', h, hcounters]
  obtain ⟨nodes, rfl, -⟩ := exists_nodes_of_sansPassengers h
  exact congrArg (fun nodes => { n' with nodes := nodes }) hnodes

/-- The stations without edges and passengers are known by their ids and names. -/
theorem Holds.map_bare (hn : n.Holds config h) :
    n.sansPassengers.nodes.toList.map Node.bare =
      (stationsOf h).map fun s => { id := s.id, name := s.name } := by
  have hnames : n.sansPassengers.nodes.toList.map Node.bare =
      (n.nodes.toList.map fun x => (x.id, x.name)).map fun p => { id := p.1, name := p.2 } := by
    rw [sansPassengers, Array.toList_map, List.map_map, List.map_map]
    rfl
  rw [hnames, hn.names, List.map_map]
  rfl

/-- Networks with the same settings are equal but for their passengers when their histories are but
for the events. -/
theorem Holds.sansPassengers_eq (hn : n.Holds config h) (hn' : n'.Holds config h')
    (hh : SameGraph h h') : n.sansPassengers = n'.sansPassengers := by
  have hstations : n.stationIds = n'.stationIds := by rw [hn.stations, hn'.stations, hh.stations]
  have hlineIds : n.lineIds = n'.lineIds := by
    rw [hn.toRecords.lines, hn'.toRecords.lines, hh.lines]
  have hhandles : n.stationHandles = n'.stationHandles :=
    hn.coherent.stationHandles.unique (hstations ▸ hn'.coherent.stationHandles)
  have hroutes : n.routes = n'.routes := by
    have hentries : routesOf h = routesOf h' := by rw [routesOf, routesOf, hh.lines]
    refine Array.toList_inj.1 (eq_of_forall₂ (fun x x' entry hx hx' => ?_) hn.routes
      (hentries ▸ hn'.routes))
    exact hx.unique hhandles hlineIds hn.coherent.lineHandles.nodup hx'
  have hlines : n.lines = n'.lines := by
    refine Array.toList_inj.1 (eq_of_forall₂ (fun x x' l hx hx' => ?_) hn.lineTable
      (hh.lines ▸ hn'.lineTable))
    exact hx.unique hroutes hn.coherent.routeHandles.nodup hx'
  have hnodes : n.sansPassengers.nodes.map Node.bare = n'.sansPassengers.nodes.map Node.bare := by
    apply Array.toList_inj.1
    rw [Array.toList_map, Array.toList_map, hn.map_bare, hn'.map_bare, hh.stations]
  refine hn.coherent.sansPassengers.ext hn'.coherent.sansPassengers (hn.setup.trans hn'.setup.symm)
    hnodes hroutes hlines ?_
  show ∀ p, n.timeOn p = n'.timeOn p
  refine timeOn_eq_of_timeBetween hn.coherent hn'.coherent hstations fun a b => ?_
  rw [hn.times, hn'.times, hh.times]

/-- Networks with the same settings whose histories agree are equal in every field. -/
theorem Holds.unique (hn : n.Holds config h) (hn' : n'.Holds config h') (hh : Agree h h') :
    n = n' := by
  refine eq_of_sansPassengers (hn.sansPassengers_eq hn' hh.sameGraph) ?_
  rw [hn.counters_eq, hn'.counters_eq, hh.stations]
  simp only [hh.balances]

end Network

end Transit
