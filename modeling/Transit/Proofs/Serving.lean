import Transit.Proofs.Determined
import Transit.Proofs.Lookups
import Transit.Proofs.Times

/-!
# The routes that serve a station

Which routes serve a station, and in which order they are listed, follows from the accepted routes
alone.

* `neighboursIn h s`: the neighbours of a station, in the order in which they first became so.
* `servingIn h s`: for each of them the routes that have the two as neighbours, each route once.
* `Coherent.mirrored`: the edges that arrive at a station come from the stations that those that
  leave it lead to, in the same order.
* `Records.routesServing_eq`: `servingIn` is what the network lists.
* `servingOrder routes s`: the same list, from the routes and no steps. `session_routesServing` says
  of every session which routes are listed, and that this is their order.
-/

namespace Transit

/-! ### Reading it off a history -/

/-- The steps of the routes that the calls add, route by route. -/
def stepsIn (h : List Call) : List (String × String) :=
  (routesOf h).flatMap fun entry => steps entry.2.stops

/-- The neighbours of a station, in the order in which they first became so. -/
def neighboursIn (h : List Call) (station : String) : List String :=
  Roster.firsts (targets station (stepsIn h))

/-- The routes on which two stations are neighbours, in the order in which they were added. -/
def joiningIn (h : List Call) (a b : String) : List String :=
  ((routesOf h).filter fun entry => Neighbours a b entry.2.stops).map (·.2.id)

/-- The routes that join a station to a neighbour, neighbour by neighbour, each one once. -/
def servingIn (h : List Call) (station : String) : List String :=
  Roster.firsts ((neighboursIn h station).flatMap (joiningIn h station))

section Reading

variable {h : List Call} {station route : String}

theorem mem_stepsIn {a b : String} :
    (a, b) ∈ stepsIn h ↔ ∃ entry ∈ routesOf h, Neighbours a b entry.2.stops := by
  unfold stepsIn
  rw [List.mem_flatMap]
  simp only [mem_steps]

/-- Only the lines matter, in their order. -/
theorem servingIn_congr {h' : List Call} (hlines : linesOf h = linesOf h') (station : String) :
    servingIn h station = servingIn h' station := by
  have hroutes : routesOf h = routesOf h' := by rw [routesOf, routesOf, hlines]
  have hjoining : joiningIn h station = joiningIn h' station := by
    funext b
    rw [joiningIn, joiningIn, hroutes]
  rw [servingIn, servingIn, neighboursIn, neighboursIn, stepsIn, stepsIn, hroutes, hjoining]

/-- A route serves the stations that have a neighbour on it. -/
theorem mem_servingIn : route ∈ servingIn h station ↔
    ∃ entry ∈ routesOf h, entry.2.id = route ∧ ∃ b, Neighbours station b entry.2.stops := by
  unfold servingIn neighboursIn joiningIn
  simp only [Roster.mem_firsts, List.mem_flatMap, mem_targets, mem_stepsIn, List.mem_map,
    List.mem_filter, decide_eq_true_eq]
  constructor
  · rintro ⟨b, -, entry, ⟨hentry, hb⟩, rfl⟩
    exact ⟨entry, hentry, rfl, b, hb⟩
  · rintro ⟨entry, hentry, rfl, b, hb⟩
    exact ⟨b, ⟨entry, hentry, hb⟩, entry, ⟨hentry, hb⟩, rfl⟩

/-! ### Growing histories -/

theorem stepsIn_append (h h' : List Call) : stepsIn (h ++ h') = stepsIn h ++ stepsIn h' := by
  rw [stepsIn, routesOf_append, List.flatMap_append]
  rfl

theorem joiningIn_append (h h' : List Call) (a b : String) :
    joiningIn (h ++ h') a b = joiningIn h a b ++ joiningIn h' a b := by
  rw [joiningIn, routesOf_append, List.filter_append, List.map_append]
  rfl

/-- New neighbours come behind those that are there. -/
theorem neighboursIn_append (h h' : List Call) (station : String) :
    neighboursIn (h ++ h') station =
      neighboursIn h station ++ (neighboursIn h' station).filter (· ∉ neighboursIn h station) := by
  rw [neighboursIn, stepsIn_append, targets, List.filterMap_append, Roster.firsts_append]
  simp only [neighboursIn, Roster.mem_firsts]
  rfl

/-- No route joins a station to one that is not its neighbour. -/
theorem joiningIn_eq_nil {s : String} (hs : s ∉ neighboursIn h station) :
    joiningIn h station s = [] := by
  rw [joiningIn, List.map_eq_nil_iff, List.filter_eq_nil_iff]
  intro entry hentry hnb
  rw [decide_eq_true_eq] at hnb
  exact hs (Roster.mem_firsts.2 (mem_targets.2 (mem_stepsIn.2 ⟨entry, hentry, hnb⟩)))

/-- Routes of new ids leave those that serve a station already in their order. -/
theorem filter_servingIn_append {h' : List Call}
    (hnew : Fresh ((routesOf h).map (·.2.id)) ((routesOf h').map (·.2.id))) (station : String) :
    (servingIn (h ++ h') station).filter (· ∉ (routesOf h').map (·.2.id)) =
      servingIn h station := by
  have hids : ∀ {h₁ : List Call} {a b id : String}, id ∈ joiningIn h₁ a b →
      id ∈ (routesOf h₁).map (·.2.id) := by
    intro h₁ a b id hid
    obtain ⟨entry, hentry, rfl⟩ := List.mem_map.1 hid
    exact List.mem_map_of_mem (List.mem_of_mem_filter hentry)
  have hjoining : ∀ s, (joiningIn (h ++ h') station s).filter (· ∉ (routesOf h').map (·.2.id)) =
      joiningIn h station s := by
    intro s
    have hold : ∀ id ∈ joiningIn h station s, id ∉ (routesOf h').map (·.2.id) := fun id hid hid' =>
      hnew.absent id hid' (hids hid)
    rw [joiningIn_append, List.filter_append, List.filter_eq_self.2 (by simpa using hold),
      List.filter_eq_nil_iff.2 (by simpa using fun id => hids), List.append_nil]
  -- a new neighbour brings routes of new ids only
  have hlater : ((neighboursIn h' station).filter (· ∉ neighboursIn h station)).flatMap
      (joiningIn h station) = [] := by
    rw [List.flatMap_eq_nil_iff]
    intro s hs
    exact joiningIn_eq_nil (by simpa using (List.mem_filter.1 hs).2)
  rw [servingIn, ← Roster.firsts_filter, List.filter_flatMap, neighboursIn_append,
    List.flatMap_append]
  simp only [hjoining]
  rw [hlater, List.append_nil, servingIn]

end Reading

namespace Network

variable {n : Network} {config : Config} {h : List Call} {x y : Handle .station}

/-! ### The edges at a station -/

theorem map_fst_leaving (ends : List (Handle .station × Handle .station)) :
    (leaving ends x).map Prod.fst = targets x ends := by
  have hpairs : targets x ends = ends.zipIdx.filterMap fun q =>
      if q.1.1 = x then some q.1.2 else none := by
    rw [targets, ← List.zipIdx_map_fst 0 ends, List.filterMap_map]
    simp [List.zipIdx_map_fst]
  rw [hpairs, leaving, List.map_filterMap]
  refine List.filterMap_congr fun p _ => ?_
  by_cases hp : p.1.1 = x <;> simp [hp]

/-- The stations that edges lead to from a station. -/
theorem Coherent.targets_ends (hn : n.Coherent) :
    targets x n.ends = Roster.firsts (targets x n.allSteps) := by
  rw [hn.ends, targets_firsts]

/-- Edges arrive from the stations that edges lead to, in the same order. -/
theorem Coherent.mirrored (hn : n.Coherent) :
    (arriving n.ends x).map Prod.fst = (leaving n.ends x).map Prod.fst := by
  have hswap : (Roster.firsts n.allSteps).map Prod.swap =
      Roster.firsts (n.allSteps.map Prod.swap) :=
    (Roster.firsts_map fun _ _ _ _ he => Prod.swap_inj.1 he).symm
  have hsteps : targets x (n.allSteps.map Prod.swap) = targets x n.allSteps := by
    rw [allSteps, List.map_flatMap, targets, List.filterMap_flatMap, targets,
      List.filterMap_flatMap]
    exact List.flatMap_congr fun r _ => targets_map_swap_steps x r.stops
  rw [arriving, map_fst_leaving, map_fst_leaving, hn.targets_ends, hn.ends, hswap, targets_firsts,
    hsteps]

/-- The routes on some edges, edge by edge. -/
def routesOn (n : Network) (es : List (Handle .edge)) : List (Handle .route) :=
  (es.filterMap fun e => n.edges[e.index]?).flatMap (·.routes.members)

theorem routesOn_append (es fs : List (Handle .edge)) :
    n.routesOn (es ++ fs) = n.routesOn es ++ n.routesOn fs := by
  simp [routesOn]

/-- The routes on the edges at `x` are those that join it to the other ends. -/
theorem routesOn_map_snd {ps : List (Handle .station × Handle .edge)}
    (hps : ∀ p ∈ ps, ∃ e, n.edges[p.2.index]? = some e ∧
      e.routes.members = n.routesJoining (x, p.1)) :
    n.routesOn (ps.map Prod.snd) = (ps.map Prod.fst).flatMap fun y => n.routesJoining (x, y) := by
  induction ps with
  | nil => rfl
  | cons p ps ih =>
    obtain ⟨e, he, hroutes⟩ := hps p List.mem_cons_self
    have hhead : n.routesOn [p.2] = n.routesJoining (x, p.1) := by simp [routesOn, he, hroutes]
    rw [List.map_cons, List.map_cons, List.flatMap_cons, ← List.singleton_append, routesOn_append,
      hhead, ih fun q hq => hps q (List.mem_cons_of_mem _ hq)]

theorem routesJoining_swap (p : Handle .station × Handle .station) :
    n.routesJoining p.swap = n.routesJoining p := by
  unfold routesJoining
  simp only [Prod.fst_swap, Prod.snd_swap, Neighbours.comm]

/-- The edge at a position carries the routes that join its ends. -/
theorem Coherent.exists_edge (hn : n.Coherent) {e : Handle .edge}
    {p : Handle .station × Handle .station} (he : n.ends[e.index]? = some p) :
    ∃ edge, n.edges[e.index]? = some edge ∧ edge.routes.members = n.routesJoining p := by
  obtain ⟨edge, hedge, rfl⟩ := getElem?_ends_eq_some_iff.1 he
  have hmem : edge ∈ n.edges.toList := mem_toList_of_getElem? hedge
  exact ⟨edge, hedge, by rw [← hn.riders, riders_ends hn.meshed.nodup hmem]⟩

/-- The handles of the routes that serve a station: those that join it to its neighbours. -/
def servingHandles (n : Network) (x : Handle .station) : List (Handle .route) :=
  Roster.firsts ((Roster.firsts (targets x n.allSteps)).flatMap fun y => n.routesJoining (x, y))

section Listing

variable {station : String} {node : Node}

/-- The routes on the edges that leave a station are those that join it to its neighbours. -/
theorem Coherent.routesOn_outbound (hn : n.Coherent) (hnode : n.nodes[x.index]? = some node) :
    n.routesOn node.outbound.values =
      (Roster.firsts (targets x n.allSteps)).flatMap fun y => n.routesJoining (x, y) := by
  have hout : node.outbound.values = (leaving n.ends x).map Prod.snd := by
    rw [← hn.meshed.outbound x node hnode]
    rfl
  rw [hout, routesOn_map_snd fun p hp => hn.exists_edge (mem_leaving.1 hp), map_fst_leaving,
    hn.targets_ends]

/-- The edges that arrive at a station carry the same routes, in the same order. -/
theorem Coherent.routesOn_inbound (hn : n.Coherent) (hnode : n.nodes[x.index]? = some node) :
    n.routesOn node.inbound.values = n.routesOn node.outbound.values := by
  have hin : node.inbound.values = (arriving n.ends x).map Prod.snd := by
    rw [← hn.meshed.inbound x node hnode]
    rfl
  rw [hn.routesOn_outbound hnode, hin, routesOn_map_snd, hn.mirrored, map_fst_leaving,
    hn.targets_ends]
  intro p hp
  rw [← routesJoining_swap]
  exact hn.exists_edge (mem_arriving.1 hp)

/-- So they bring no route that is not there, and those that leave would do. -/
theorem Coherent.firsts_routesOn_incident (hn : n.Coherent) (hnode : n.nodes[x.index]? = some node) :
    Roster.firsts (n.routesOn node.incident) = Roster.firsts (n.routesOn node.outbound.values) := by
  rw [Node.incident, routesOn_append, hn.routesOn_inbound hnode]
  exact Roster.firsts_append_of_subset (List.Subset.refl _)

/-- The routes that serve a station are those on the edges that touch it, as far as these are in the
table. -/
theorem routesServing_of_node (hx : n.station? station = some x)
    (hnode : n.nodes[x.index]? = some node) (hedges : ∀ e ∈ node.incident, e.index < n.edges.size) :
    n.routesServing station =
      (Roster.firsts (n.routesOn node.incident)).mapM fun r => return (← n.route r).id := by
  have hmap : node.incident.mapM n.edge =
      .ok (node.incident.filterMap fun e => n.edges[e.index]?) := by
    refine Checked.mapM_eq_filterMap fun e he => ?_
    have hedge := Array.getElem?_eq_getElem (hedges e he)
    exact ⟨_, hedge, edge_eq_ok_iff.2 hedge⟩
  unfold routesServing
  rw [hx]
  simp only [node_eq_ok_iff.2 hnode, Checked.ok_bind, hmap]
  rfl

theorem Coherent.routesServing_eq (hn : n.Coherent) (hx : n.station? station = some x) :
    n.routesServing station = .ok ((n.servingHandles x).filterMap n.routeId?) := by
  obtain ⟨node, hnode, -⟩ := hn.station?_iff.1 hx
  have hroutes : Roster.firsts (n.routesOn node.incident) = n.servingHandles x := by
    rw [hn.firsts_routesOn_incident hnode, hn.routesOn_outbound hnode, servingHandles]
  rw [routesServing_of_node hx hnode fun e he => hn.incident_lt hnode he, hroutes]
  refine Checked.mapM_eq_filterMap fun r hr => ?_
  obtain ⟨y, -, hr⟩ := List.mem_flatMap.1 (Roster.mem_firsts.1 hr)
  obtain ⟨route, hroute, -⟩ := mem_routesJoining.1 hr
  refine ⟨route.id, by rw [routeId?, hroute, Option.map_some], ?_⟩
  rw [route_eq_ok_iff.2 hroute, Checked.ok_bind]
  rfl

end Listing

/-! ### In terms of ids -/

/-- The routes that join two stations, by their ids. -/
theorem filterMap_routesJoining (p : Handle .station × Handle .station) :
    (n.routesJoining p).filterMap n.routeId? =
      (n.routes.toList.filter fun r => Neighbours p.1 p.2 r.stops).map (·.id) := by
  have hpairs : ((n.routes.toList.filter fun r => Neighbours p.1 p.2 r.stops).map (·.id)) =
      n.routes.toList.zipIdx.filterMap fun q =>
        if Neighbours p.1 p.2 q.1.stops then some q.1.id else none := by
    rw [← List.filterMap_eq_map, List.filterMap_filter, ← List.zipIdx_map_fst 0 n.routes.toList,
      List.filterMap_map]
    simp [List.zipIdx_map_fst]
  rw [hpairs, routesJoining, List.filterMap_filterMap]
  refine List.filterMap_congr ?_
  rintro ⟨r, i⟩ hm
  have hr : n.routes[i]? = some r := by simpa using List.mem_zipIdx_iff_getElem?.1 hm
  by_cases hp : Neighbours p.1 p.2 r.stops
  · simp [hp, routeId?, hr]
  · simp [hp]

/-- The stored steps are those of the accepted routes, by handle. -/
theorem Records.map_allSteps (hn : n.Records config h) :
    n.allSteps.map (Prod.map some some) =
      (stepsIn h).map (Prod.map n.station? n.station?) := by
  rw [allSteps, stepsIn, List.map_flatMap, List.map_flatMap]
  refine congrArg List.flatten (map_eq_map_iff_forall₂.2 (hn.routes.imp fun z entry hz => ?_))
  rw [← steps_map, ← steps_map, hz.stops]

/-- Stations that steps start from or lead to are known. -/
theorem Records.known_of_mem_stepsIn (hn : n.Records config h) {p : String × String}
    (hp : p ∈ stepsIn h) : ∃ s, n.station? p.1 = some s := by
  obtain ⟨entry, hentry, hnb⟩ := mem_stepsIn.1 hp
  obtain ⟨z, -, hz⟩ := hn.exists_stored hentry
  exact hz.known hnb.mem.1

/-- The neighbours of a station, by handle, are those that the history tells. -/
theorem Records.map_neighbours (hn : n.Records config h) {station : String}
    (hx : n.station? station = some x) :
    (Roster.firsts (targets x n.allSteps)).map some =
      (neighboursIn h station).map n.station? := by
  have hinj : ∀ p ∈ stepsIn h, n.station? p.1 = n.station? station → p.1 = station := by
    intro p _ he
    exact hn.coherent.station?_inj (he.trans hx) hx
  have htargets : (targets x n.allSteps).map some = (targets station (stepsIn h)).map n.station? :=
    calc (targets x n.allSteps).map some
        = targets (some x) (n.allSteps.map (Prod.map some some)) :=
          (targets_map fun _ _ he => Option.some.inj he).symm
      _ = targets (n.station? station) ((stepsIn h).map (Prod.map n.station? n.station?)) := by
          rw [hn.map_allSteps, hx]
      _ = (targets station (stepsIn h)).map n.station? := targets_map hinj
  rw [← Roster.firsts_map fun _ _ _ _ he => Option.some.inj he, htargets, Roster.firsts_map,
    neighboursIn]
  intro a ha b _ he
  obtain ⟨entry, hentry, hnb⟩ := mem_stepsIn.1 (mem_targets.1 ha)
  obtain ⟨z, -, hz⟩ := hn.exists_stored hentry
  obtain ⟨s, hs⟩ := hz.known hnb.mem.2
  exact hn.coherent.station?_inj hs (he ▸ hs)

/-- The stored routes that join two stations are the accepted ones that do. -/
theorem Records.joining_eq (hn : n.Records config h) {a b : String}
    (ha : n.station? a = some x) (hb : n.station? b = some y) :
    (n.routesJoining (x, y)).filterMap n.routeId? = joiningIn h a b := by
  rw [filterMap_routesJoining, joiningIn, map_eq_map_iff_forall₂]
  have hfilter : List.Forall₂ n.Stores (n.routes.toList.filter fun r => Neighbours x y r.stops)
      ((routesOf h).filter fun entry => Neighbours a b entry.2.stops) := by
    refine List.rel_filter (fun z entry hz => ?_) hn.routes
    simp only [decide_eq_true_eq]
    exact hz.neighbours_iff hn.coherent ha hb
  exact hfilter.imp fun _ _ hz => hz.id

/-- The routes that serve a station are listed as the history tells. -/
theorem Records.routesServing_eq (hn : n.Records config h) (station : String) :
    n.routesServing station = .ok (servingIn h station) := by
  cases hx : n.station? station with
  | none =>
    -- no accepted route stops at a station that is not there
    have hnone : neighboursIn h station = [] := by
      rw [List.eq_nil_iff_forall_not_mem]
      intro b hb
      rw [neighboursIn, Roster.mem_firsts, mem_targets] at hb
      obtain ⟨s, hs⟩ := hn.known_of_mem_stepsIn hb
      exact nomatch hx.symm.trans hs
    rw [routesServing, hx, servingIn, hnone]
    rfl
  | some x =>
    have hinj : ∀ r r' : Handle .route, ∀ id, n.routeId? r = some id → n.routeId? r' = some id →
        r = r' := fun r r' id hr hr' => index_eq_of_getElem? hn.coherent.routeHandles.nodup
          (by rwa [getElem?_routeIds]) (by rwa [getElem?_routeIds])
    rw [hn.coherent.routesServing_eq hx, servingHandles,
      ← Roster.firsts_filterMap fun r _ r' _ => hinj r r', servingIn, List.filterMap_flatMap]
    refine congrArg (fun ids => Except.ok (Roster.firsts ids)) (congrArg List.flatten ?_)
    rw [map_eq_map_iff_forall₂]
    refine (map_eq_map_iff_forall₂.1 (hn.map_neighbours hx)).imp fun y b hb => ?_
    exact hn.joining_eq hx hb.symm

end Network

/-! ### From the routes alone -/

/-- The stations that stand next to a station on a route, from left to right. -/
def besides (station : String) (stops : List String) : List String :=
  (consecutive stops).filterMap fun p =>
    if p.1 = station then some p.2 else if p.2 = station then some p.1 else none

/-- The routes that serve a station, in order: its neighbours as they first stand next to it, route
by route; for each of them the routes on which the two are neighbours; each of these once. -/
def servingOrder (routes : List Route) (station : String) : List String :=
  ((routes.flatMap fun r => besides station r.stops).eraseDups.flatMap fun s =>
    (routes.filter fun r => Neighbours station s r.stops).map (·.id)).eraseDups

/-- At `b` the first neighbour is `a`, which brings both routes. -/
example :
    servingOrder [.along "1" "" "" ["a", "b"], .along "2" "" "" ["c", "b", "a"]] "b" =
      ["1", "2"] := by
  decide

/-- Steps are made forth and back, but whoever stands next to itself is met once. -/
theorem firsts_targets_steps (station : String) (stops : List String) :
    Roster.firsts (targets station (steps stops)) = Roster.firsts (besides station stops) := by
  have hback : besides station stops = (consecutive stops).flatMap fun p =>
      (if p.1 = station then some p.2 else if p.2 = station then some p.1 else none).toList := by
    rw [besides, List.filterMap_eq_flatMap_toList]
  rw [targets, steps, List.filterMap_flatMap, hback]
  refine Roster.firsts_flatMap_congr ?_
  rintro ⟨a, b⟩ -
  by_cases ha : a = station <;> by_cases hb : b = station
  · subst ha hb
    simp [Roster.firsts_eq_eraseDups, List.eraseDups_cons]
  all_goals simp [ha, hb]

theorem servingIn_eq_servingOrder (h : List Call) (station : String) :
    servingIn h station = servingOrder ((linesOf h).flatMap (·.routes)) station := by
  have hneighbours : neighboursIn h station =
      (((linesOf h).flatMap (·.routes)).flatMap fun r => besides station r.stops).eraseDups := by
    rw [neighboursIn, stepsIn, ← map_routesOf, List.flatMap_map, ← Roster.firsts_eq_eraseDups,
      targets, List.filterMap_flatMap]
    exact Roster.firsts_flatMap_congr fun entry _ => firsts_targets_steps station entry.2.stops
  have hjoining : joiningIn h station = fun s =>
      (((linesOf h).flatMap (·.routes)).filter fun r =>
        Neighbours station s r.stops).map (·.id) := by
    funext s
    rw [joiningIn, ← map_routesOf, List.filter_map, List.map_map]
    rfl
  rw [servingIn, servingOrder, hneighbours, hjoining, Roster.firsts_eq_eraseDups]

namespace Network

/-- Whatever the calls before, the routes that are listed for a station are the accepted ones of two
stops or more that stop there, each one once and in the order of `servingOrder`, which the accepted
routes alone decide. For an unknown station there is none. -/
theorem session_routesServing (config : Config) (requests : List Request) :
    ∃ n h, session { config := config } requests = .ok n ∧
      accepted { config := config } requests = .ok h ∧
      ∀ station, ∃ ids, n.routesServing station = .ok ids ∧ ids.Nodup ∧
        (∀ route, route ∈ ids ↔ (∃ s ∈ stationsOf h, s.id = station) ∧
          ∃ l ∈ linesOf h, ∃ r ∈ l.routes, r.id = route ∧ station ∈ r.stops ∧ 2 ≤ r.stops.length) ∧
        ((∀ s ∈ stationsOf h, s.id ≠ station) → ids = []) ∧
        ids = servingOrder ((linesOf h).flatMap (·.routes)) station := by
  obtain ⟨n, h, hok, hh, hn⟩ := exists_session config requests
  refine ⟨n, h, hok, hh, fun station => ⟨_, hn.routesServing_eq station, Roster.nodup_firsts _, ?_⟩⟩
  have hknown : ∀ entry ∈ routesOf h, station ∈ entry.2.stops →
      ∃ s ∈ stationsOf h, s.id = station := by
    intro entry hentry hstop
    obtain ⟨z, -, hz⟩ := hn.exists_stored hentry
    obtain ⟨s, hs⟩ := hz.known hstop
    have hm := hn.coherent.mem_stationIds hs
    rw [hn.stations] at hm
    exact List.mem_map.1 hm
  have hmem : ∀ route, route ∈ servingIn h station ↔ (∃ s ∈ stationsOf h, s.id = station) ∧
      ∃ l ∈ linesOf h, ∃ r ∈ l.routes, r.id = route ∧ station ∈ r.stops ∧ 2 ≤ r.stops.length := by
    intro route
    rw [mem_servingIn]
    simp only [Neighbours.exists_iff]
    constructor
    · rintro ⟨⟨l, r⟩, hentry, hid, hstop, htwo⟩
      obtain ⟨hl, hr⟩ := mem_routesOf.1 hentry
      exact ⟨hknown _ hentry hstop, l, hl, r, hr, hid, hstop, htwo⟩
    · rintro ⟨-, l, hl, r, hr, hid, hstop, htwo⟩
      exact ⟨(l, r), mem_routesOf.2 ⟨hl, hr⟩, hid, hstop, htwo⟩
  refine ⟨hmem, fun hunknown => ?_, servingIn_eq_servingOrder h station⟩
  rw [List.eq_nil_iff_forall_not_mem]
  intro route hroute
  obtain ⟨⟨s, hs, hid⟩, -⟩ := (hmem route).1 hroute
  exact hunknown s hs hid

end Network

end Transit
