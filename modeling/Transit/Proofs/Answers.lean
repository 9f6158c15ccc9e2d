import Transit.Proofs.Ledger
import Transit.Proofs.ReadBack
import Transit.Proofs.Serving

/-!
# Answers can be read off the history

* `answer config h q`: the answer to a query, in terms of ids and of the accepted calls alone.
* `Holds.ask_eq`: it is what a network answers that holds the calls. So networks whose histories
  tell the same answer the same, however their tables are laid out.
-/

namespace Transit

/-! ### Reading a history -/

/-- The station that the calls add under an id. -/
def stationIn (h : List Call) (id : String) : Option Station := (stationsOf h).find? (·.id = id)

/-- The line that the calls add under an id. -/
def lineIn (h : List Call) (id : String) : Option Line := (linesOf h).find? (·.id = id)

/-- The route that the calls add under an id, with its line. -/
def routeIn (h : List Call) (id : String) : Option (Line × Route) :=
  (routesOf h).find? (·.2.id = id)

/-- The time between two stations: zero for a station and itself, and else the one set last. -/
def timeIn (h : List Call) (a b : String) : UInt32 :=
  if a = b then 0 else (lastTime h a b).getD 0

/-- The place of a station among some stops, zero for one that is not there. -/
def placeAmong (stops : List String) (station : String) : Nat := (stops.idxOf? station).getD 0

/-- The clamped sum of the times from one stop to a later one. -/
def spanIn (h : List Call) (stops : List String) (first last : Nat) : Checked UInt32 :=
  if first ≤ last + 1 ∧ last < stops.length then
    .ok (((consecutive ((stops.take (last + 1)).drop first)).map
      fun pair => timeIn h pair.1 pair.2).foldl addTimes 0)
  else .error (.noSpan first last stops.length)

/-- The time from one station to another along a route of a line. -/
def routeTimeIn (config : Config) (h : List Call) (line route a b : String) : Checked UInt32 :=
  if a = b then .ok 0
  else match (routeIn h route).filter (·.1.id = line) with
    | none => .ok 0
    | some (_, r) =>
      let i := placeAmong r.stops a
      let j := placeAmong r.stops b
      match Direction.between i j, config.inbound with
      | .outbound, _ => spanIn h r.stops i j
      | .inbound, .zero => .ok 0
      | .inbound, .reverseSum => spanIn h r.stops j i

/-- The sizes of what the calls add, and the passengers that they bring. -/
def statisticsIn (h : List Call) : Statistics where
  stations := (stationsOf h).length
  lines := (linesOf h).length
  routes := (routesOf h).length
  edges := (Roster.firsts (stepsIn h)).length
  passengers := net (eventsOf h)

/-- The answer to a query, as the calls tell it. -/
def answer (config : Config) (h : List Call) : Query → Checked Answer
  | .config => .ok (.config config)
  | .hasStation id => .ok (.flag (stationIn h id).isSome)
  | .hasLine id => .ok (.flag (lineIn h id).isSome)
  | .hasRoute id => .ok (.flag (routeIn h id).isSome)
  | .stationName id => .ok (.text ((stationIn h id).map (·.name)))
  | .lineName id => .ok (.text ((lineIn h id).map (·.name)))
  | .routeDirection id => .ok (.text ((routeIn h id).map (·.2.direction)))
  | .stationIds => .ok (.texts ((stationsOf h).map (·.id)))
  | .routesOfLine id => .ok (.texts (((lineIn h id).map fun l => l.routes.map (·.id)).getD []))
  | .routesServing station => .ok (.texts (servingIn h station))
  | .stopPosition station route =>
    .ok (.position ((routeIn h route).bind fun entry => entry.2.stops.idxOf? station))
  | .stopNumber station route =>
    .ok (.number (((routeIn h route).map fun entry => placeAmong entry.2.stops station).getD 0))
  | .direction a b route =>
    .ok (.direction (.between
      (((routeIn h route).map fun entry => placeAmong entry.2.stops a).getD 0)
      (((routeIn h route).map fun entry => placeAmong entry.2.stops b).getD 0)))
  | .travelTime a b => .ok (.time (timeIn h a b))
  | .routeTime line route a b => (routeTimeIn config h line route a b).map .time
  | .passengerCount station =>
    .ok (.count (if (stationIn h station).isSome then .ok (balance h station)
      else .error (.stationNotFound station)))
  | .statistics => .ok (.statistics (statisticsIn h))

/-- The time along a route follows from the route and the times between stations. -/
theorem routeTimeIn_congr {config : Config} {h h' : List Call} {route : String}
    (hroute : routeIn h route = routeIn h' route) (htimes : ∀ a b, timeIn h a b = timeIn h' a b)
    (line a b : String) :
    routeTimeIn config h line route a b = routeTimeIn config h' line route a b := by
  have hspan : ∀ stops i j, spanIn h stops i j = spanIn h' stops i j := by
    intro stops i j
    unfold spanIn
    simp only [htimes]
  unfold routeTimeIn
  simp only [hroute, hspan]

section Places

variable {stops : List String} {station : String}

/-- A station that is among the stops stands at its place. -/
theorem getElem?_placeAmong (h : station ∈ stops) :
    stops[placeAmong stops station]? = some station := by
  obtain ⟨i, hi⟩ := Option.isSome_iff_exists.1 (List.isSome_idxOf?.2 h)
  obtain ⟨hlt, hstation, -⟩ := List.idxOf?_eq_some_iff.1 hi
  rw [placeAmong, hi, Option.getD_some, List.getElem?_eq_getElem hlt, hstation]

theorem placeAmong_eq_zero (h : station ∉ stops) : placeAmong stops station = 0 := by
  rw [placeAmong, List.idxOf?_eq_none_iff.2 h, Option.getD_none]

/-- Among stops, every station has a place, even one that is not there. -/
theorem placeAmong_lt (hstops : stops ≠ []) : placeAmong stops station < stops.length := by
  by_cases h : station ∈ stops
  · exact (List.getElem?_eq_some_iff.1 (getElem?_placeAmong h)).1
  · rw [placeAmong_eq_zero h]
    exact List.length_pos_iff.2 hstops

end Places

namespace Network

variable {n : Network} {config : Config} {h : List Call}

/-! ### Stations and lines -/

theorem stationName?_eq (hn : n.Coherent) (id : String) :
    n.stationName? id = .ok ((n.nodes.toList.find? (·.id = id)).map (·.name)) := by
  rw [← hn.stationHandles.getElem?_get?, ← station?]
  unfold stationName?
  cases hs : n.station? id with
  | none => rfl
  | some s =>
    obtain ⟨x, hx, -⟩ := hn.station?_iff.1 hs
    simp only [node_eq_ok_iff.2 hx, Checked.ok_bind]
    simp [hx]

theorem lineName?_eq_find? (hn : n.Coherent) (id : String) :
    n.lineName? id = .ok ((n.lines.toList.find? (·.id = id)).map (·.name)) := by
  rw [← hn.lineHandles.getElem?_get?, ← line?]
  unfold lineName?
  cases hl : n.line? id with
  | none => rfl
  | some l =>
    obtain ⟨x, hx, -⟩ := hn.line?_iff.1 hl
    simp only [line_eq_ok_iff.2 hx, Checked.ok_bind]
    simp [hx]

theorem routesOfLine_eq_find? (hn : n.Coherent) (id : String) :
    n.routesOfLine id = .ok (((n.lines.toList.find? (·.id = id)).map fun l =>
      l.routes.filterMap n.routeId?).getD []) := by
  rw [← hn.lineHandles.getElem?_get?, ← line?]
  cases hl : n.line? id with
  | none => rw [routesOfLine_unknown hl]; rfl
  | some l =>
    obtain ⟨x, hx, rfl⟩ := hn.line?_iff.1 hl
    rw [routesOfLine_eq hn hx]
    simp [hx]

theorem findRoute?_eq (hn : n.Coherent) (id : String) :
    n.findRoute? id = .ok (n.routes.toList.find? (·.id = id)) := by
  obtain ⟨found, hfound, hiff⟩ := findRoute?_ok hn id
  rw [hfound, Except.ok.injEq]
  ext x
  rw [hiff, find?_eq_some_iff_of_nodup hn.routeHandles.nodup]

theorem Holds.stationName?_eq (hn : n.Holds config h) (id : String) :
    n.stationName? id = .ok ((stationIn h id).map (·.name)) := by
  have hnodes := map_eq_map_iff_forall₂.1 hn.names
  rw [Network.stationName?_eq hn.coherent]
  refine congrArg Except.ok (map_eq_map_of_rel ?_ (rel_find? ?_ hnodes))
  · intro x s hxs
    exact (Prod.mk.inj hxs).2
  · intro x s hxs
    simp only [(Prod.mk.inj hxs).1]

/-- A line is found where one was added, and keeps it. -/
theorem Holds.rel_lineIn (hn : n.Holds config h) (id : String) :
    Option.Rel n.KeepsLine (n.lines.toList.find? (·.id = id)) (lineIn h id) :=
  rel_find? (fun x l hx => by simp only [hx.id]) hn.lineTable

theorem Holds.lineName?_eq (hn : n.Holds config h) (id : String) :
    n.lineName? id = .ok ((lineIn h id).map (·.name)) := by
  rw [lineName?_eq_find? hn.coherent]
  exact congrArg Except.ok (map_eq_map_of_rel (fun x l hx => hx.name) (hn.rel_lineIn id))

theorem Holds.routesOfLine_eq (hn : n.Holds config h) (id : String) :
    n.routesOfLine id = .ok (((lineIn h id).map fun l => l.routes.map (·.id)).getD []) := by
  rw [routesOfLine_eq_find? hn.coherent]
  exact congrArg (fun o : Option (List String) => Except.ok (o.getD []))
    (map_eq_map_of_rel (fun _ _ hx => filterMap_routeId? hx) (hn.rel_lineIn id))

/-! ### Ids -/

theorem Records.hasStation_eq (hn : n.Records config h) (id : String) :
    n.hasStation id = (stationIn h id).isSome := by
  rw [Bool.eq_iff_iff, hn.coherent.hasStation_iff, hn.stations, stationIn, isSome_find?_iff]

theorem Records.hasLine_eq (hn : n.Records config h) (id : String) :
    n.hasLine id = (lineIn h id).isSome := by
  rw [Bool.eq_iff_iff, hn.coherent.hasLine_iff, hn.lines, lineIn, isSome_find?_iff]

theorem Records.hasRoute_eq (hn : n.Records config h) (id : String) :
    n.hasRoute id = (routeIn h id).isSome := by
  rw [Bool.eq_iff_iff, hn.coherent.hasRoute_iff, hn.routeIds, routeIn, isSome_find?_iff]

/-! ### Routes -/

/-- A route is found where one was added, and is stored as such. -/
theorem Records.rel_routeIn (hn : n.Records config h) (id : String) :
    Option.Rel n.Stores (n.routes.toList.find? (·.id = id)) (routeIn h id) :=
  rel_find? (fun x entry hx => by simp only [hx.id]) hn.routes

/-- A route is found in the history under its id, and nothing else is. -/
theorem Records.routeIn_eq_some_iff (hn : n.Records config h) {id : String} {entry : Line × Route} :
    routeIn h id = some entry ↔ entry ∈ routesOf h ∧ entry.2.id = id :=
  find?_eq_some_iff_of_nodup (hn.routeIds ▸ hn.coherent.routeHandles.nodup)

theorem Records.routeDirection?_eq (hn : n.Records config h) (id : String) :
    n.routeDirection? id = .ok ((routeIn h id).map (·.2.direction)) := by
  rw [routeDirection?, findRoute?_eq hn.coherent]
  exact congrArg Except.ok (map_eq_map_of_rel (fun x entry hx => hx.direction) (hn.rel_routeIn id))

theorem Records.stopPosition?_eq (hn : n.Records config h) (station route : String) :
    n.stopPosition? station route =
      .ok ((routeIn h route).bind fun entry => entry.2.stops.idxOf? station) := by
  have hrel := hn.rel_routeIn route
  rw [stopPosition?, findRoute?_eq hn.coherent, Checked.ok_bind]
  generalize n.routes.toList.find? (·.id = route) = found at hrel ⊢
  generalize routeIn h route = entry at hrel ⊢
  cases hrel with
  | none => rfl
  | some hx => exact congrArg Except.ok (hx.position hn.coherent.toRouted station)

theorem Records.stopNumber_eq (hn : n.Records config h) (station route : String) :
    n.stopNumber station route =
      .ok (((routeIn h route).map fun entry => placeAmong entry.2.stops station).getD 0) := by
  rw [stopNumber, hn.stopPosition?_eq, Checked.ok_bind]
  cases routeIn h route <;> rfl

theorem Records.direction_eq (hn : n.Records config h) (a b route : String) :
    n.direction a b route = .ok (.between
      (((routeIn h route).map fun entry => placeAmong entry.2.stops a).getD 0)
      (((routeIn h route).map fun entry => placeAmong entry.2.stops b).getD 0)) := by
  rw [direction, hn.stopNumber_eq, Checked.ok_bind, hn.stopNumber_eq, Checked.ok_bind]
  rfl

/-- On a route that was added, a station has the place of its id among the stops. -/
theorem Records.stopPosition?_added (hn : n.Records config h) {entry : Line × Route}
    (hentry : entry ∈ routesOf h) (station : String) :
    n.stopPosition? station entry.2.id = .ok (entry.2.stops.idxOf? station) := by
  rw [hn.stopPosition?_eq, hn.routeIn_eq_some_iff.2 ⟨hentry, rfl⟩]
  rfl

/-- On a route that was added, the direction follows from the places of the two stations. -/
theorem Records.direction_added (hn : n.Records config h) {entry : Line × Route}
    (hentry : entry ∈ routesOf h) (a b : String) :
    n.direction a b entry.2.id =
      .ok (.between (placeAmong entry.2.stops a) (placeAmong entry.2.stops b)) := by
  rw [hn.direction_eq, hn.routeIn_eq_some_iff.2 ⟨hentry, rfl⟩]
  rfl

/-! ### Times -/

theorem Records.travelTime_eq (hn : n.Records config h) (a b : String) :
    n.travelTime a b = .ok (timeIn h a b) := by
  rw [Network.travelTime_eq hn.coherent, hn.times, timeIn]

theorem Records.segmentTime_eq (hn : n.Records config h) {x y : Handle .station} {a b : String}
    (hx : n.station? a = some x) (hy : n.station? b = some y) :
    n.segmentTime x y = .ok (timeIn h a b) := by
  have hxy : x = y ↔ a = b := by
    constructor
    · rintro rfl
      exact hn.coherent.station?_inj hx hy
    · rintro rfl
      exact Option.some.inj (hx.symm.trans hy)
  rw [Network.segmentTime_eq hn.coherent (hn.coherent.station?_lt hx), timeIn, ← hn.times,
    timeBetween, hx, hy]
  simp only [hxy]

/-- The stops of a stored route stand for those of the route that was added. -/
theorem Stores.forall₂_stops {x : StoredRoute} {entry : Line × Route} (hx : n.Stores x entry) :
    List.Forall₂ (fun s stop => n.station? stop = some s) x.stops entry.2.stops :=
  (map_eq_map_iff_forall₂.1 hx.stops).imp fun _ _ he => he.symm

theorem Records.spanTime_eq (hn : n.Records config h) {x : StoredRoute} {entry : Line × Route}
    (hx : n.Stores x entry) (i j : Nat) : n.spanTime x i j = spanIn h entry.2.stops i j := by
  have hspan : List.Forall₂ (fun s stop => n.station? stop = some s)
      ((x.stops.take (j + 1)).drop i) ((entry.2.stops.take (j + 1)).drop i) :=
    List.forall₂_drop i (List.forall₂_take (j + 1) hx.forall₂_stops)
  have htimes := Checked.mapM_eq_map_of_forall₂ (f := fun p => n.segmentTime p.1 p.2)
    (g := fun p => timeIn h p.1 p.2) (rel_consecutive hspan) fun p q hpq =>
      hn.segmentTime_eq hpq.1 hpq.2
  rw [spanTime, spanIn, hx.forall₂_stops.length_eq]
  simp only [htimes, Checked.ok_bind]
  rfl

theorem Stores.stopNumberOn_eq (hn : n.Coherent) {x : StoredRoute} {entry : Line × Route}
    (hx : n.Stores x entry) (station : String) :
    n.stopNumberOn x station = placeAmong entry.2.stops station := by
  rw [stopNumberOn, placeAmong, hx.position hn.toRouted]

/-- A route is found on the line that it was added with. -/
theorem Records.rel_routeOnLine? (hn : n.Records config h) (line route : String) :
    ∃ found, n.routeOnLine? line route = .ok found ∧
      Option.Rel n.Stores found ((routeIn h route).filter (·.1.id = line)) := by
  have hrel := hn.rel_routeIn route
  rw [routeOnLine?, findRoute?_eq hn.coherent, Checked.ok_bind]
  generalize n.routes.toList.find? (·.id = route) = found at hrel ⊢
  generalize routeIn h route = entry at hrel ⊢
  cases hrel with
  | none => exact ⟨none, rfl, .none⟩
  | @some x entry hx =>
    obtain ⟨l, hl, hid⟩ := Option.map_eq_some_iff.1 hx.line
    simp only [line_eq_ok_iff.2 hl, Checked.ok_bind]
    refine ⟨_, rfl, ?_⟩
    rw [hid, Option.filter_some]
    by_cases hline : entry.1.id = line
    · simpa [hline] using Option.Rel.some hx
    · simp [hline]

theorem Records.routeTime_eq (hn : n.Records config h) (line route a b : String) :
    n.routeTime line route a b = routeTimeIn config h line route a b := by
  unfold routeTime routeTimeIn
  by_cases hab : a = b
  · rw [if_pos hab, if_pos hab]
    rfl
  · rw [if_neg hab, if_neg hab]
    obtain ⟨found, hfound, hrel⟩ := hn.rel_routeOnLine? line route
    rw [hfound, Checked.ok_bind]
    generalize (routeIn h route).filter (·.1.id = line) = entry at hrel ⊢
    cases hrel with
    | none => rfl
    | some hx =>
      simp only [hx.stopNumberOn_eq hn.coherent, hn.spanTime_eq hx, hn.setup]
      rfl

/-! ### Counts -/

/-- There is an edge for every two stations that are neighbours on an accepted route. -/
theorem Records.size_edges (hn : n.Records config h) :
    n.edges.size = (Roster.firsts (stepsIn h)).length := by
  have hstored : Roster.firsts (n.allSteps.map (Prod.map some some)) =
      (Roster.firsts n.allSteps).map (Prod.map some some) :=
    Roster.firsts_map fun _ _ _ _ he =>
      Prod.ext (Option.some.inj (Prod.mk.inj he).1) (Option.some.inj (Prod.mk.inj he).2)
  -- different steps lead between different stations, for their stops are known
  have hadded : Roster.firsts ((stepsIn h).map (Prod.map n.station? n.station?)) =
      (Roster.firsts (stepsIn h)).map (Prod.map n.station? n.station?) := by
    refine Roster.firsts_map fun p hp p' _ he => ?_
    obtain ⟨he₁, he₂⟩ := Prod.mk.inj he
    obtain ⟨x, hx⟩ := hn.known_of_mem_stepsIn hp
    obtain ⟨y, hy⟩ := hn.known_of_mem_stepsIn (p := p.swap) (mem_stepsIn.2 (by
      simpa only [Prod.fst_swap, Prod.snd_swap, Neighbours.comm] using mem_stepsIn.1 hp))
    exact Prod.ext (hn.coherent.station?_inj hx (he₁ ▸ hx)) (hn.coherent.station?_inj hy (he₂ ▸ hy))
  have hlength := congrArg (fun ps => (Roster.firsts ps).length) hn.map_allSteps
  simp only [hstored, hadded, List.length_map] at hlength
  rw [← length_ends, hn.coherent.ends, hlength]

theorem Holds.statistics_eq (hn : n.Holds config h) : n.statistics = statisticsIn h := by
  have hstations := congrArg List.length hn.stations
  rw [length_stationIds, List.length_map] at hstations
  have hlines := hn.lineTable.length_eq
  have hroutes := hn.routes.length_eq
  rw [Array.length_toList] at hlines hroutes
  have hpassengers := hn.statistics_passengers
  unfold statisticsIn
  rw [← hstations, ← hlines, ← hroutes, ← hn.size_edges, ← hpassengers]
  rfl

/-! ### Every query -/

/-- A network answers as the calls tell that it holds. -/
theorem Holds.ask_eq (hn : n.Holds config h) (q : Query) : n.ask q = answer config h q := by
  cases q with
  | config => exact congrArg (fun c => Except.ok (Answer.config c)) hn.setup
  | hasStation id => exact congrArg (fun b => Except.ok (Answer.flag b)) (hn.hasStation_eq id)
  | hasLine id => exact congrArg (fun b => Except.ok (Answer.flag b)) (hn.hasLine_eq id)
  | hasRoute id => exact congrArg (fun b => Except.ok (Answer.flag b)) (hn.hasRoute_eq id)
  | stationName id => rw [ask, hn.stationName?_eq]; rfl
  | lineName id => rw [ask, hn.lineName?_eq]; rfl
  | routeDirection id => rw [ask, hn.routeDirection?_eq]; rfl
  | stationIds => exact congrArg (fun ids => Except.ok (Answer.texts ids)) hn.stations
  | routesOfLine id => rw [ask, hn.routesOfLine_eq]; rfl
  | routesServing station => rw [ask, hn.routesServing_eq]; rfl
  | stopPosition station route => rw [ask, hn.stopPosition?_eq]; rfl
  | stopNumber station route => rw [ask, hn.stopNumber_eq]; rfl
  | direction a b route => rw [ask, hn.direction_eq]; rfl
  | travelTime a b => rw [ask, hn.travelTime_eq]; rfl
  | routeTime line route a b =>
    rw [ask, hn.routeTime_eq, answer]
    cases routeTimeIn config h line route a b <;> rfl
  | passengerCount station =>
    have hknown : station ∈ n.stationIds ↔ (stationIn h station).isSome = true := by
      rw [← hn.hasStation_eq, hn.coherent.hasStation_iff]
    rw [ask, hn.passengerCount_eq, answer]
    simp only [hknown]
    rfl
  | statistics => exact congrArg (fun s => Except.ok (Answer.statistics s)) hn.statistics_eq

end Network

end Transit
