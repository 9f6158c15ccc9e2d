import Transit.Proofs.History

/-!
# The edges of a network, exactly

`Network.EdgesExact` says in terms of the tables alone which edges there are, where they are listed
and which routes they carry. Coherent networks have it, and with them the network of every session.
-/

namespace Transit

/-- An edge is where the route table and the two ends expect it.

* `exists_iff`: there is an edge from `x` to `y` exactly when they are neighbours on a stored route.
* `unique`: no two edges lead from one station to one other.
* `outbound` and `inbound`: the entries at a station are the edges that leave it and those that
  arrive at it, and no others.
* `sorted` and `riders`: an edge carries the routes on which its ends are neighbours, by ascending
  handle. -/
structure Network.EdgesExact (n : Network) : Prop where
  exists_iff : ∀ x y : Handle .station,
    (∃ e edge, n.edge e = .ok edge ∧ edge.source = x ∧ edge.target = y) ↔
      ∃ r route, n.route r = .ok route ∧ Neighbours x y route.stops
  unique : ∀ e edge e' edge', n.edge e = .ok edge → n.edge e' = .ok edge' →
    edge.source = edge'.source → edge.target = edge'.target → e = e'
  ends_known : ∀ e edge, n.edge e = .ok edge →
    (∃ node, n.node edge.source = .ok node) ∧ ∃ node, n.node edge.target = .ok node
  outbound : ∀ x node, n.node x = .ok node → ∀ y e, node.outbound.get? y = some e ↔
    ∃ edge, n.edge e = .ok edge ∧ edge.source = x ∧ edge.target = y
  outbound_entries : ∀ x node, n.node x = .ok node → ∀ y e,
    (y, e) ∈ node.outbound.entries ↔ node.outbound.get? y = some e
  inbound : ∀ y node, n.node y = .ok node → ∀ x e, node.inbound.get? x = some e ↔
    ∃ edge, n.edge e = .ok edge ∧ edge.source = x ∧ edge.target = y
  inbound_entries : ∀ y node, n.node y = .ok node → ∀ x e,
    (x, e) ∈ node.inbound.entries ↔ node.inbound.get? x = some e
  sorted : ∀ e edge, n.edge e = .ok edge → edge.routes.members.Pairwise (· < ·)
  riders : ∀ e edge, n.edge e = .ok edge → ∀ r, r ∈ edge.routes.members ↔
    ∃ route, n.route r = .ok route ∧ Neighbours edge.source edge.target route.stops

namespace Network

variable {n : Network}

/-- A pair of stations at a position of the edge table is an edge under that handle. -/
theorem ends_eq_some_iff {e : Handle .edge} {x y : Handle .station} :
    n.ends[e.index]? = some (x, y) ↔
      ∃ edge, n.edge e = .ok edge ∧ edge.source = x ∧ edge.target = y := by
  rw [getElem?_ends_eq_some_iff]
  simp only [edge_eq_ok_iff, Edge.ends, Prod.mk.injEq]

theorem Coherent.edgesExact (hn : n.Coherent) : n.EdgesExact := by
  have hmem : ∀ {e edge}, n.edge e = .ok edge → edge ∈ n.edges.toList := by
    exact fun he => mem_toList_of_getElem? (edge_eq_ok_iff.1 he)
  have hriders : ∀ {e edge}, n.edge e = .ok edge →
      edge.routes.members = n.routesJoining (edge.source, edge.target) := by
    intro e edge he
    rw [← riders_ends hn.meshed.nodup (hmem he)]
    exact hn.riders edge.ends
  constructor
  · intro x y
    constructor
    · rintro ⟨e, edge, he, rfl, rfl⟩
      obtain ⟨route, hroute, hxy⟩ :=
        hn.mem_ends_iff.1 (List.mem_map.2 ⟨edge, hmem he, rfl⟩)
      obtain ⟨i, hi⟩ := List.mem_iff_getElem?.1 hroute
      exact ⟨⟨i⟩, route, route_eq_ok_iff.2 (by simpa using hi), hxy⟩
    · rintro ⟨r, route, hr, hxy⟩
      rw [route_eq_ok_iff] at hr
      have hends : (x, y) ∈ n.ends :=
        hn.mem_ends_iff.2 ⟨route, mem_toList_of_getElem? hr, hxy⟩
      obtain ⟨i, hi⟩ := List.mem_iff_getElem?.1 hends
      exact ⟨⟨i⟩, (ends_eq_some_iff (e := ⟨i⟩)).1 hi⟩
  · intro e edge e' edge' he he' hsource htarget
    have h : n.ends[e.index]? = some edge.ends := ends_eq_some_iff.2 ⟨edge, he, rfl, rfl⟩
    have h' : n.ends[e'.index]? = some edge.ends :=
      ends_eq_some_iff.2 ⟨edge', he', hsource.symm, htarget.symm⟩
    obtain ⟨hlt, -⟩ := List.getElem?_eq_some_iff.1 h
    exact Handle.index_inj.1 ((List.getElem?_inj hlt hn.meshed.nodup).1 (h.trans h'.symm))
  · intro e edge he
    obtain ⟨hsource, htarget⟩ :=
      hn.meshed.bounded edge.ends (List.mem_map.2 ⟨edge, hmem he, rfl⟩)
    exact ⟨⟨_, node_eq_ok_iff.2 (Array.getElem?_eq_getElem hsource)⟩,
      ⟨_, node_eq_ok_iff.2 (Array.getElem?_eq_getElem htarget)⟩⟩
  · intro x node hx y e
    rw [hn.meshed.outbound_get?_iff (node_eq_ok_iff.1 hx), ends_eq_some_iff]
  · intro x node hx y e
    exact Directory.get?_eq_some_iff.symm
  · intro y node hy x e
    rw [hn.meshed.inbound_get?_iff (node_eq_ok_iff.1 hy), ends_eq_some_iff]
  · intro y node hy x e
    exact Directory.get?_eq_some_iff.symm
  · intro e edge he
    rw [hriders he]
    exact pairwise_routesJoining _
  · intro e edge he r
    rw [hriders he, mem_routesJoining]
    simp only [route_eq_ok_iff]

/-- Whatever the calls, accepted or refused, the edges are exactly those of the stored routes. -/
theorem session_edgesExact (config : Config) (requests : List Request) :
    ∃ n, session { config := config } requests = .ok n ∧ n.EdgesExact := by
  obtain ⟨n, h, hn, -, hrec⟩ := exists_session config requests
  exact ⟨n, hn, hrec.coherent.edgesExact⟩

end Network

end Transit
