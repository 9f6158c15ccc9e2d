import Transit.Proofs.Wiring

/-!
# When the tables of a network agree

Apart from the names, the passengers and the travel times, everything in a network follows from the
stops of its routes and from the lines that list them.

* `Network.Routed`: the edges are the steps of the stored routes, each one where it was first made,
  and every edge carries exactly the routes that take it or its reverse, in the order of their
  handles.
* `Network.Coherent`: besides, the lines divide the routes among them, in order.
* The tables of ids number the ids of the table they point into (`Directory.Numbers`).
-/

namespace Transit

namespace Network

variable {n : Network}

/-- The ids of the routes, in the order in which they were added. -/
def routeIds (n : Network) : List String := n.routes.toList.map (·.id)

/-- The id of a route by its handle. -/
def routeId? (n : Network) (r : Handle .route) : Option String :=
  (n.routes[r.index]?).map (·.id)

/-- The ids of the lines, in the order in which they were added. -/
def lineIds (n : Network) : List String := n.lines.toList.map (·.id)

/-- The steps of all routes, route by route. -/
def allSteps (n : Network) : List (Handle .station × Handle .station) :=
  n.routes.toList.flatMap fun r => steps r.stops

/-- The routes on which two stations are neighbours, by ascending handle. -/
def routesJoining (n : Network) (p : Handle .station × Handle .station) :
    List (Handle .route) :=
  n.routes.toList.zipIdx.filterMap fun (r, i) =>
    if Neighbours p.1 p.2 r.stops then some ⟨i⟩ else none

/-- The first handles of a table. -/
def handles (kind : Kind) (size : Nat) : List (Handle kind) := (List.range size).map Handle.mk

/-- Stations, routes and edges agree. -/
structure Routed (n : Network) : Prop where
  stationHandles : n.stationHandles.Numbers n.stationIds
  routeHandles : n.routeHandles.Numbers n.routeIds
  meshed : n.Meshed
  ends : n.ends = Roster.firsts n.allSteps
  riders : ∀ p, (n.riders p).members = n.routesJoining p
  /-- An edge and its reverse take the same time. -/
  twins : ∀ p, n.timeOn p.swap = n.timeOn p
  stops : ∀ r ∈ n.routes.toList, ∀ s ∈ r.stops, s.index < n.nodes.size

/-- Stations, routes, edges and lines agree. -/
structure Coherent (n : Network) : Prop extends n.Routed where
  lineHandles : n.lineHandles.Numbers n.lineIds
  /-- The lines list the routes, one after the other. -/
  lineRoutes : n.lines.toList.flatMap (·.routes) = handles .route n.routes.size
  /-- A route that a line lists names that line. -/
  routeLines : ∀ (l : Handle .line) (line : StoredLine), n.lines[l.index]? = some line →
    ∀ r ∈ line.routes, ∃ route, n.routes[r.index]? = some route ∧ route.line = l

theorem Coherent.empty (config : Config) : Coherent { config := config } where
  stationHandles := .empty
  routeHandles := .empty
  meshed := by constructor <;> simp [ends]
  ends := rfl
  riders _ := rfl
  twins _ := rfl
  stops := by simp
  lineHandles := .empty
  lineRoutes := rfl
  routeLines := by simp

/-! ### The routes that join two stations -/

theorem mem_routesJoining {p : Handle .station × Handle .station} {h : Handle .route} :
    h ∈ n.routesJoining p ↔
      ∃ r, n.routes[h.index]? = some r ∧ Neighbours p.1 p.2 r.stops := by
  unfold routesJoining
  rw [List.mem_filterMap]
  constructor
  · rintro ⟨⟨r, i⟩, hm, he⟩
    rw [List.mem_zipIdx_iff_getElem?] at hm
    by_cases hp : Neighbours p.1 p.2 r.stops
    · simp only [hp, if_true, Option.some.injEq] at he
      subst he
      exact ⟨r, by simpa using hm, hp⟩
    · simp [hp] at he
  · rintro ⟨r, hr, hp⟩
    exact ⟨(r, h.index), List.mem_zipIdx_iff_getElem?.2 (by simpa using hr), by simp [hp]⟩

/-- The routes come by ascending handle, and none comes twice. -/
theorem pairwise_routesJoining (p : Handle .station × Handle .station) :
    (n.routesJoining p).Pairwise (· < ·) := by
  unfold routesJoining
  rw [List.pairwise_filterMap]
  have hsorted : (n.routes.toList.zipIdx).Pairwise fun a b => a.2 < b.2 := by
    have h : (List.range' 0 n.routes.toList.length).Pairwise (· < ·) := List.pairwise_lt_range'
    rwa [← List.zipIdx_map_snd 0 n.routes.toList, List.pairwise_map] at h
  refine hsorted.imp ?_
  rintro ⟨r, i⟩ ⟨r', j⟩ hij h hh h' hh'
  simp only [Option.ite_none_right_eq_some, Option.some.injEq] at hh hh'
  obtain ⟨-, rfl⟩ := hh
  obtain ⟨-, rfl⟩ := hh'
  exact hij

namespace Routed

variable {p : Handle .station × Handle .station}

/-- Two stations are joined by an edge exactly when they are neighbours on a stored route. -/
theorem mem_ends_iff (hn : n.Routed) :
    p ∈ n.ends ↔ ∃ r ∈ n.routes.toList, Neighbours p.1 p.2 r.stops := by
  rw [hn.ends, Roster.mem_firsts, allSteps, List.mem_flatMap]
  simp only [mem_steps]

theorem swap_mem_ends_iff (hn : n.Routed) : p.swap ∈ n.ends ↔ p ∈ n.ends := by
  rw [hn.mem_ends_iff, hn.mem_ends_iff]
  simp only [Prod.fst_swap, Prod.snd_swap, Neighbours.comm]

end Routed

/-! ### Looking ids up -/

section Lookup

variable {id : String}

theorem Routed.station?_iff (hn : n.Routed) {s : Handle .station} :
    n.station? id = some s ↔ ∃ x, n.nodes[s.index]? = some x ∧ x.id = id := by
  unfold station?
  rw [hn.stationHandles.get?_iff, stationIds, List.getElem?_map, Option.map_eq_some_iff]
  simp

theorem Routed.route?_iff (hn : n.Routed) {r : Handle .route} :
    n.route? id = some r ↔ ∃ x, n.routes[r.index]? = some x ∧ x.id = id := by
  unfold route?
  rw [hn.routeHandles.get?_iff, routeIds, List.getElem?_map, Option.map_eq_some_iff]
  simp

theorem Coherent.line?_iff (hn : n.Coherent) {l : Handle .line} :
    n.line? id = some l ↔ ∃ x, n.lines[l.index]? = some x ∧ x.id = id := by
  unfold line?
  rw [hn.lineHandles.get?_iff, lineIds, List.getElem?_map, Option.map_eq_some_iff]
  simp

theorem Routed.hasStation_iff (hn : n.Routed) : n.hasStation id = true ↔ id ∈ n.stationIds :=
  hn.stationHandles.contains_iff

theorem Routed.hasRoute_iff (hn : n.Routed) : n.hasRoute id = true ↔ id ∈ n.routeIds :=
  hn.routeHandles.contains_iff

theorem Coherent.hasLine_iff (hn : n.Coherent) : n.hasLine id = true ↔ id ∈ n.lineIds :=
  hn.lineHandles.contains_iff

theorem Routed.station?_lt (hn : n.Routed) {s : Handle .station} (h : n.station? id = some s) :
    s.index < n.nodes.size := by
  obtain ⟨x, hx, -⟩ := hn.station?_iff.1 h
  exact (Array.getElem?_eq_some_iff.1 hx).1

theorem Routed.mem_stationIds (hn : n.Routed) {s : Handle .station} (h : n.station? id = some s) :
    id ∈ n.stationIds :=
  List.mem_of_getElem? (hn.stationHandles.get?_iff.1 h)

/-- Different ids have different handles. -/
theorem Routed.station?_inj (hn : n.Routed) {id' : String} {s : Handle .station}
    (h : n.station? id = some s) (h' : n.station? id' = some s) : id = id' := by
  obtain ⟨x, hx, rfl⟩ := hn.station?_iff.1 h
  obtain ⟨y, hy, rfl⟩ := hn.station?_iff.1 h'
  rw [hx, Option.some.injEq] at hy
  rw [hy]

end Lookup

end Network

end Transit
