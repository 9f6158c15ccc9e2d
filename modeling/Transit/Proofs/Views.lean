import Transit.Network.Query
import Transit.Proofs.Containers
import Transit.Proofs.Lists
import Transit.Proofs.Loops

/-!
# Views of a network

* `node_eq_ok_iff` and its siblings: an access succeeds exactly at a handle of the table.
* `Network.bare`: the network without its edges. "Everything but the edges is unchanged" is one
  equation between bare networks.
* `Network.sansPassengers`: the network with nobody at its stations, for what does not depend on
  them.
* `Network.ends`, `Network.riders`, `Network.timeOn`: the edges, the routes on them and their
  times, by the pair of stations that they join.
-/

namespace Transit

theorem Handle.index_inj {kind : Kind} {a b : Handle kind} : a.index = b.index ↔ a = b := by
  cases a
  cases b
  simp

/-- The station of a node, without the edges that touch it. -/
def Node.bare (x : Node) : Node := { x with outbound := ∅, inbound := ∅ }

/-- The station of a node, with nobody in it. -/
def Node.sansPassengers (x : Node) : Node := { x with passengers := 0 }

/-- The two ends of an edge. -/
def Edge.ends (e : Edge) : Handle .station × Handle .station := (e.source, e.target)

namespace Network

variable {n : Network}

/-! ### Access -/

theorem node_eq_ok_iff {s : Handle .station} {x : Node} :
    n.node s = .ok x ↔ n.nodes[s.index]? = some x := by
  unfold node
  cases n.nodes[s.index]? <;> simp

theorem edge_eq_ok_iff {e : Handle .edge} {x : Edge} :
    n.edge e = .ok x ↔ n.edges[e.index]? = some x := by
  unfold edge
  cases n.edges[e.index]? <;> simp

theorem route_eq_ok_iff {r : Handle .route} {x : StoredRoute} :
    n.route r = .ok x ↔ n.routes[r.index]? = some x := by
  unfold route
  cases n.routes[r.index]? <;> simp

theorem line_eq_ok_iff {l : Handle .line} {x : StoredLine} :
    n.line l = .ok x ↔ n.lines[l.index]? = some x := by
  unfold line
  cases n.lines[l.index]? <;> simp

theorem modifyNode_ok {s : Handle .station} (h : s.index < n.nodes.size) (f : Node → Node) :
    n.modifyNode s f = .ok { n with nodes := n.nodes.modify s.index f } :=
  if_pos h

theorem modifyEdge_ok {e : Handle .edge} (h : e.index < n.edges.size) (f : Edge → Edge) :
    n.modifyEdge e f = .ok { n with edges := n.edges.modify e.index f } :=
  if_pos h

/-! ### The network without its edges -/

/-- The network without its edges: no edge in the table, and none at any station. -/
def bare (n : Network) : Network := { n with nodes := n.nodes.map Node.bare, edges := #[] }

@[simp] theorem bare_config : n.bare.config = n.config := rfl
@[simp] theorem bare_nodes : n.bare.nodes = n.nodes.map Node.bare := rfl
@[simp] theorem bare_routes : n.bare.routes = n.routes := rfl
@[simp] theorem bare_lines : n.bare.lines = n.lines := rfl
@[simp] theorem bare_stationHandles : n.bare.stationHandles = n.stationHandles := rfl
@[simp] theorem bare_routeHandles : n.bare.routeHandles = n.routeHandles := rfl
@[simp] theorem bare_lineHandles : n.bare.lineHandles = n.lineHandles := rfl

@[simp] theorem stationIds_bare : n.bare.stationIds = n.stationIds := by
  simp [stationIds, Node.bare, Function.comp_def]

/-- Networks that differ in their edges only agree in every other table. -/
theorem bare_eq_iff {n' : Network} : n'.bare = n.bare ↔
    n'.config = n.config ∧ n'.nodes.map Node.bare = n.nodes.map Node.bare ∧
      n'.routes = n.routes ∧ n'.lines = n.lines ∧ n'.stationHandles = n.stationHandles ∧
      n'.routeHandles = n.routeHandles ∧ n'.lineHandles = n.lineHandles := by
  simp [bare]

theorem station?_of_bare {n' : Network} (h : n'.bare = n.bare) (id : String) :
    n'.station? id = n.station? id := by
  show n'.bare.station? id = n.bare.station? id
  rw [h]

theorem stationIds_of_bare {n' : Network} (h : n'.bare = n.bare) :
    n'.stationIds = n.stationIds := by
  rw [← stationIds_bare, h, stationIds_bare]

theorem size_nodes_of_bare {n' : Network} (h : n'.bare = n.bare) :
    n'.nodes.size = n.nodes.size := by
  simpa using congrArg (fun m : Network => m.nodes.size) h

/-! ### The network without its passengers -/

/-- The network with nobody at any station. -/
def sansPassengers (n : Network) : Network := { n with nodes := n.nodes.map Node.sansPassengers }

@[simp] theorem sansPassengers_sansPassengers :
    n.sansPassengers.sansPassengers = n.sansPassengers := by
  simp [sansPassengers, Node.sansPassengers, Function.comp_def]

/-- Networks that differ in their passengers only have stations of their own, and share the rest. -/
theorem exists_nodes_of_sansPassengers {n' : Network}
    (h : n'.sansPassengers = n.sansPassengers) :
    ∃ nodes, n' = { n with nodes := nodes } ∧
      nodes.map Node.sansPassengers = n.nodes.map Node.sansPassengers := by
  refine ⟨n'.nodes, ?_, congrArg (fun m : Network => m.nodes) h⟩
  cases n
  cases n'
  simp only [sansPassengers, mk.injEq] at h
  simp only [h]

/-! ### The edges by the stations that they join -/

/-- The ends of the edges, in the order of their handles. -/
def ends (n : Network) : List (Handle .station × Handle .station) :=
  n.edges.toList.map Edge.ends

/-- The edge from the first station to the second. -/
def edgeOn? (n : Network) (p : Handle .station × Handle .station) : Option Edge :=
  n.edges.toList.find? fun e => e.ends = p

/-- The routes on the edge from the first station to the second. -/
def riders (n : Network) (p : Handle .station × Handle .station) : Roster (Handle .route) :=
  ((n.edgeOn? p).map (·.routes)).getD ∅

/-- The time of the edge from the first station to the second, zero when there is none. -/
def timeOn (n : Network) (p : Handle .station × Handle .station) : UInt32 :=
  ((n.edgeOn? p).map (·.time)).getD 0

theorem getElem?_ends {i : Nat} : n.ends[i]? = (n.edges[i]?).map Edge.ends := by
  simp [ends]

/-- The edges of the table are at the positions of their ends. -/
theorem getElem?_ends_eq_some_iff {i : Nat} {p : Handle .station × Handle .station} :
    n.ends[i]? = some p ↔ ∃ e, n.edges[i]? = some e ∧ e.ends = p := by
  rw [getElem?_ends, Option.map_eq_some_iff]

theorem length_ends : n.ends.length = n.edges.size := by
  simp [ends]

theorem edgeOn?_eq_none {p : Handle .station × Handle .station} (h : p ∉ n.ends) :
    n.edgeOn? p = none := by
  unfold edgeOn?
  rw [List.find?_eq_none]
  intro e he hp
  exact h (List.mem_map.2 ⟨e, he, by simpa using hp⟩)

theorem timeOn_eq_zero {p : Handle .station × Handle .station} (h : p ∉ n.ends) :
    n.timeOn p = 0 := by
  simp [timeOn, edgeOn?_eq_none h]

theorem exists_edgeOn? {p : Handle .station × Handle .station} (h : p ∈ n.ends) :
    ∃ e, n.edgeOn? p = some e ∧ e ∈ n.edges.toList ∧ e.ends = p := by
  obtain ⟨e, he, rfl⟩ := List.mem_map.1 h
  have hsome : (n.edgeOn? e.ends).isSome := List.find?_isSome.2 ⟨e, he, by simp⟩
  obtain ⟨e', he'⟩ := Option.isSome_iff_exists.1 hsome
  exact ⟨e', he', List.mem_of_find?_eq_some he', by simpa using List.find?_some he'⟩

/-- When no two edges join the same stations, the edge between two stations is the one in the
table. -/
theorem edgeOn?_ends (h : n.ends.Nodup) {e : Edge} (he : e ∈ n.edges.toList) :
    n.edgeOn? e.ends = some e := by
  obtain ⟨e', hsome, he', hends⟩ := exists_edgeOn? (List.mem_map.2 ⟨e, he, rfl⟩)
  rw [hsome, List.inj_on_of_nodup_map h he' he hends]

theorem riders_ends (h : n.ends.Nodup) {e : Edge} (he : e ∈ n.edges.toList) :
    n.riders e.ends = e.routes := by
  simp [riders, edgeOn?_ends h he]

theorem timeOn_ends (h : n.ends.Nodup) {e : Edge} (he : e ∈ n.edges.toList) :
    n.timeOn e.ends = e.time := by
  simp [timeOn, edgeOn?_ends h he]

/-! ### Changing an edge -/

section ModifyEdge

variable {i : Nat} {x : Edge} {f : Edge → Edge}

theorem ends_modify (hf : ∀ x, (f x).ends = x.ends) :
    ends { n with edges := n.edges.modify i f } = n.ends := by
  have h := congrArg Array.toList (map_modify_of_forall hf n.edges i)
  rwa [Array.toList_map, Array.toList_map] at h

theorem edgeOn?_modify (h : n.ends.Nodup) (hf : ∀ x, (f x).ends = x.ends)
    (hx : n.edges[i]? = some x) (p : Handle .station × Handle .station) :
    edgeOn? { n with edges := n.edges.modify i f } p =
      if p = x.ends then some (f x) else n.edgeOn? p := by
  unfold edgeOn?
  rw [Array.toList_modify]
  exact find?_modify_of_nodup h (by simpa using hx) (hf x) p

end ModifyEdge

end Network

end Transit
