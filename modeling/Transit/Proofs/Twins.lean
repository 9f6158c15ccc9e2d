import Transit.Proofs.Serving

/-!
# Every edge has its twin

Edges are opened in pairs, one forth and one back, and a pair stays alike. So the edges that arrive
at a station tell nothing that those that leave it do not.

* `Coherent.twin_alike`: an edge and its reverse carry the same routes and take the same time.
* `Network.sansInbound`: the network with the arriving edges forgotten at every station, so that
  whatever looks at a station sees the edges that leave it and no others.
* `session_twins`: every query is answered alike without the arriving edges, and the same times can
  be set.
-/

namespace Transit

/-- The station of a node, without the edges that arrive. -/
def Node.sansInbound (x : Node) : Node := { x with inbound := ∅ }

@[simp] theorem Node.outbound_sansInbound (x : Node) : x.sansInbound.outbound = x.outbound := rfl

@[simp] theorem Node.inbound_sansInbound (x : Node) : x.sansInbound.inbound = ∅ := rfl

/-- Of the edges that touch the station, those that leave it are left. -/
theorem Node.incident_sansInbound (x : Node) : x.sansInbound.incident = x.outbound.values :=
  List.append_nil _

namespace Network

variable {n : Network} {x y : Handle .station} {node : Node}

/-! ### Twins -/

/-- The stations that edges arrive from are those that edges lead to, in the same order. -/
theorem Coherent.keys_inbound (hn : n.Coherent) (hnode : n.nodes[x.index]? = some node) :
    node.inbound.keys = node.outbound.keys := by
  rw [Directory.keys, Directory.keys, hn.meshed.inbound x node hnode,
    hn.meshed.outbound x node hnode, hn.mirrored]

/-- Where no edge leads to, none arrives from. -/
theorem Coherent.inbound_get?_eq_none (hn : n.Coherent) (hnode : n.nodes[x.index]? = some node)
    (hout : node.outbound.get? y = none) : node.inbound.get? y = none := by
  rw [hn.meshed.inbound_get?_eq_none_iff hnode]
  intro hback
  exact (hn.meshed.outbound_get?_eq_none_iff hnode).1 hout (hn.swap_mem_ends_iff.1 hback)

/-- An edge and its reverse carry the same routes in the same order and take the same time. -/
theorem Coherent.twin_alike (hn : n.Coherent) {edge edge' : Edge} (he : edge ∈ n.edges.toList)
    (he' : edge' ∈ n.edges.toList) (hends : edge'.ends = edge.ends.swap) :
    edge'.routes = edge.routes ∧ edge'.time = edge.time := by
  have hnodup := hn.meshed.nodup
  constructor
  · ext1
    calc edge'.routes.members
        = n.routesJoining edge'.ends := by rw [← riders_ends hnodup he', hn.riders]
      _ = n.routesJoining edge.ends := by rw [hends, routesJoining_swap]
      _ = edge.routes.members := by rw [← riders_ends hnodup he, hn.riders]
  · calc edge'.time
        = n.timeOn edge'.ends := (timeOn_ends hnodup he').symm
      _ = n.timeOn edge.ends := by rw [hends, hn.twins]
      _ = edge.time := timeOn_ends hnodup he

/-! ### Without the arriving edges -/

/-- The network with the arriving edges forgotten at every station. The edges themselves stay in
their table. -/
def sansInbound (n : Network) : Network := { n with nodes := n.nodes.map Node.sansInbound }

theorem getElem?_nodes_sansInbound (i : Nat) :
    n.sansInbound.nodes[i]? = (n.nodes[i]?).map Node.sansInbound :=
  Array.getElem?_map

theorem node_sansInbound (s : Handle .station) :
    n.sansInbound.node s = (n.node s).map Node.sansInbound := by
  unfold node
  rw [getElem?_nodes_sansInbound]
  cases n.nodes[s.index]? <;> rfl

theorem node_sansInbound_of_node (hnode : n.nodes[x.index]? = some node) :
    n.sansInbound.node x = .ok node.sansInbound := by
  rw [node_sansInbound, node_eq_ok_iff.2 hnode]
  rfl

/-- What is read at a station besides its edges is there without them. -/
theorem bind_node_sansInbound {β : Type} {f : Node → Checked β}
    (hf : ∀ x : Node, f x.sansInbound = f x) (s : Handle .station) :
    n.sansInbound.node s >>= f = n.node s >>= f := by
  rw [node_sansInbound]
  cases n.node s with
  | error e => rfl
  | ok x => exact hf x

@[simp] theorem station?_sansInbound (id : String) :
    n.sansInbound.station? id = n.station? id := rfl

theorem stationIds_sansInbound : n.sansInbound.stationIds = n.stationIds := by
  simp [stationIds, sansInbound, Node.sansInbound, Function.comp_def]

theorem statistics_sansInbound : n.sansInbound.statistics = n.statistics := by
  simp [statistics, sansInbound, Node.sansInbound, Function.comp_def]

theorem stationName?_sansInbound (id : String) :
    n.sansInbound.stationName? id = n.stationName? id := by
  unfold stationName?
  rw [station?_sansInbound]
  cases n.station? id with
  | none => rfl
  | some s => exact bind_node_sansInbound (fun _ => rfl) s

theorem passengerCount_sansInbound (id : String) :
    n.sansInbound.passengerCount id = n.passengerCount id := by
  unfold passengerCount
  rw [station?_sansInbound]
  cases n.station? id with
  | none => rfl
  | some s => exact bind_node_sansInbound (fun _ => rfl) s

/-- The time between two stations is read on the edge that leaves the first, or on none. -/
theorem segmentTime_sansInbound (hn : n.Coherent) (x y : Handle .station) :
    n.sansInbound.segmentTime x y = n.segmentTime x y := by
  unfold segmentTime
  by_cases hxy : x = y
  · rw [if_pos hxy, if_pos hxy]
  rw [if_neg hxy, if_neg hxy]
  cases hnode : n.node x with
  | error e => rw [node_sansInbound, hnode]; rfl
  | ok node =>
    rw [node_sansInbound_of_node (node_eq_ok_iff.1 hnode)]
    simp only [Checked.ok_bind, Node.outbound_sansInbound, Node.inbound_sansInbound]
    cases hout : node.outbound.get? y with
    | some e => rfl
    | none => rw [hn.inbound_get?_eq_none (node_eq_ok_iff.1 hnode) hout]; rfl

theorem travelTime_sansInbound (hn : n.Coherent) (a b : String) :
    n.sansInbound.travelTime a b = n.travelTime a b := by
  unfold travelTime
  simp only [station?_sansInbound, segmentTime_sansInbound hn]

theorem routeTime_sansInbound (hn : n.Coherent) (line route a b : String) :
    n.sansInbound.routeTime line route a b = n.routeTime line route a b := by
  have hspan : n.sansInbound.spanTime = n.spanTime := by
    funext r i j
    unfold spanTime
    simp only [segmentTime_sansInbound hn]
  unfold routeTime
  rw [hspan]
  rfl

/-- The edges that leave a station carry every route that serves it, in the order in which they are
listed. -/
theorem routesServing_sansInbound (hn : n.Coherent) (station : String) :
    n.sansInbound.routesServing station = n.routesServing station := by
  cases hx : n.station? station with
  | none =>
    rw [routesServing, routesServing, station?_sansInbound, hx]
  | some x =>
    obtain ⟨node, hnode, -⟩ := hn.station?_iff.1 hx
    have hnode' : n.sansInbound.nodes[x.index]? = some node.sansInbound := by
      rw [getElem?_nodes_sansInbound, hnode, Option.map_some]
    have hedges : ∀ e ∈ node.incident, e.index < n.edges.size := fun e he =>
      hn.incident_lt hnode he
    have hedges' : ∀ e ∈ node.sansInbound.incident, e.index < n.sansInbound.edges.size := by
      rw [Node.incident_sansInbound]
      exact fun e he => hedges e (List.mem_append_left _ he)
    rw [routesServing_of_node hx hnode hedges,
      routesServing_of_node (n := n.sansInbound) hx hnode' hedges', Node.incident_sansInbound,
      hn.firsts_routesOn_incident hnode]
    rfl

/-- Every query is answered alike. -/
theorem ask_sansInbound (hn : n.Coherent) (q : Query) : n.sansInbound.ask q = n.ask q := by
  cases q with
  | stationName id => rw [ask, stationName?_sansInbound, ask]
  | stationIds => rw [ask, stationIds_sansInbound, ask]
  | routesServing station => rw [ask, routesServing_sansInbound hn, ask]
  | travelTime a b => rw [ask, travelTime_sansInbound hn, ask]
  | routeTime line route a b => rw [ask, routeTime_sansInbound hn, ask]
  | passengerCount station => rw [ask, passengerCount_sansInbound, ask]
  | statistics => rw [ask, statistics_sansInbound, ask]
  | _ => rfl

/-- A time can be set where an edge leaves for the other station, whatever arrives from there. -/
theorem setTravelTime_sansInbound (hn : n.Coherent) (a b : String) (t : UInt32) :
    ∃ v m m', n.setTravelTime a b t = .ok ⟨v, m⟩ ∧
      n.sansInbound.setTravelTime a b t = .ok ⟨v, m'⟩ := by
  obtain ⟨⟨x, y, hx, hy, hxy⟩, -, -, m, -, -, hset, -⟩ | ⟨hapart, hset⟩ :=
    setTravelTime_cases hn a b t
  · obtain ⟨node, hnode, -⟩ := hn.station?_iff.1 hx
    obtain ⟨i, hi⟩ := List.mem_iff_getElem?.1 hxy
    have hout : node.outbound.get? y = some ⟨i⟩ := (hn.meshed.outbound_get?_iff hnode).2 hi
    obtain ⟨e, he, -⟩ := getElem?_ends_eq_some_iff.1 hi
    have hedge : i < n.sansInbound.edges.size := (Array.getElem?_eq_some_iff.1 he).1
    -- the edge that leaves is the only one that is written
    obtain ⟨m', hwrite⟩ : ∃ m', n.sansInbound.modifyEdge ⟨i⟩ (fun x => { x with time := t }) =
        .ok m' := ⟨_, modifyEdge_ok (e := ⟨i⟩) hedge _⟩
    refine ⟨_, _, m', hset, ?_⟩
    unfold setTravelTime
    simp [hx, hy, node_sansInbound_of_node hnode, hout, hwrite]
  · refine ⟨_, _, n.sansInbound, hset, ?_⟩
    unfold setTravelTime
    cases hx : n.station? a with
    | none => simp [hx]
    | some x =>
      cases hy : n.station? b with
      | none => simp [hx, hy]
      | some y =>
        obtain ⟨node, hnode, -⟩ := hn.station?_iff.1 hx
        have hout : node.outbound.get? y = none :=
          (hn.meshed.outbound_get?_eq_none_iff hnode).2 fun hxy => hapart ⟨x, y, hx, hy, hxy⟩
        simp [hx, hy, node_sansInbound_of_node hnode, hout]

/-! ### Over a session -/

/-- Whatever the calls before, the edges that arrive at a station mirror those that leave it. They
come from the stations that the others lead to, in the same order; an edge carries the routes of its
reverse, in the same order, and takes the same time. So, with the arriving edges forgotten at every
station, every query is answered as before, the time between two stations is read without them, also
by handle, and the same times can be set. -/
theorem session_twins (config : Config) (requests : List Request) :
    ∃ n, session { config := config } requests = .ok n ∧
      (∀ x node, n.node x = .ok node → node.inbound.keys = node.outbound.keys) ∧
      (∀ e edge e' edge', n.edge e = .ok edge → n.edge e' = .ok edge' →
        edge'.source = edge.target → edge'.target = edge.source →
        edge'.routes = edge.routes ∧ edge'.time = edge.time) ∧
      (∀ q, n.sansInbound.ask q = n.ask q) ∧
      (∀ x y, n.sansInbound.segmentTime x y = n.segmentTime x y) ∧
      ∀ a b t, ∃ v m m', n.setTravelTime a b t = .ok ⟨v, m⟩ ∧
        n.sansInbound.setTravelTime a b t = .ok ⟨v, m'⟩ := by
  obtain ⟨n, h, hok, -, hn⟩ := exists_session config requests
  have hmem : ∀ {e edge}, n.edge e = .ok edge → edge ∈ n.edges.toList := by
    exact fun he => mem_toList_of_getElem? (edge_eq_ok_iff.1 he)
  refine ⟨n, hok, fun x node hnode => hn.coherent.keys_inbound (node_eq_ok_iff.1 hnode), ?_,
    ask_sansInbound hn.coherent, segmentTime_sansInbound hn.coherent,
    setTravelTime_sansInbound hn.coherent⟩
  intro e edge e' edge' he he' hsource htarget
  exact hn.coherent.twin_alike (hmem he) (hmem he') (Prod.ext hsource htarget)

end Network

end Transit
