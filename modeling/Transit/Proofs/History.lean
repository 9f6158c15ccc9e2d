import Transit.Proofs.Steps

/-!
# What a network keeps of its history

* `stationsOf`, `linesOf`, `routesOf` and `lastTime` read a list of accepted calls.
* `Network.Records n config h`: `n` is what the calls `h`, each one accepted in its turn, have made
  of an empty network.
* `Records.effect` and `Records.attempt`: granted calls are recorded.
* `Network.exists_session`: every session ends, and its last network records the calls accepted on
  the way.
-/

namespace Transit

/-! ### Reading a history -/

/-- The stations that the calls add. -/
def stationsOf (h : List Call) : List Station :=
  h.filterMap fun
    | .addStation s => some s
    | _ => none

/-- The lines that the calls add. -/
def linesOf (h : List Call) : List Line :=
  h.filterMap fun
    | .addLine l => some l
    | _ => none

/-- The routes that the calls add, each one with its line. -/
def routesOf (h : List Call) : List (Line × Route) :=
  (linesOf h).flatMap fun l => l.routes.map fun r => (l, r)

/-- The times that the calls set between two stations, in either order. -/
def timesOf (h : List Call) (a b : String) : List UInt32 :=
  h.filterMap fun
    | .setTravelTime a' b' t => if (a' = a ∧ b' = b) ∨ (a' = b ∧ b' = a) then some t else none
    | _ => none

/-- The time that the calls set last between two stations. -/
def lastTime (h : List Call) (a b : String) : Option UInt32 := (timesOf h a b).getLast?

theorem mem_routesOf {h : List Call} {l : Line} {r : Route} :
    (l, r) ∈ routesOf h ↔ l ∈ linesOf h ∧ r ∈ l.routes := by
  unfold routesOf
  rw [List.mem_flatMap]
  constructor
  · rintro ⟨l', hl', hr⟩
    obtain ⟨r', hr', he⟩ := List.mem_map.1 hr
    cases he
    exact ⟨hl', hr'⟩
  · rintro ⟨hl, hr⟩
    exact ⟨l, hl, List.mem_map.2 ⟨r, hr, rfl⟩⟩

theorem map_routesOf (h : List Call) :
    (routesOf h).map (·.2) = (linesOf h).flatMap (·.routes) := by
  simp [routesOf, List.map_flatMap, Function.comp_def]

section Append

variable {h h' : List Call}

theorem stationsOf_append : stationsOf (h ++ h') = stationsOf h ++ stationsOf h' :=
  List.filterMap_append

theorem linesOf_append : linesOf (h ++ h') = linesOf h ++ linesOf h' :=
  List.filterMap_append

theorem routesOf_append : routesOf (h ++ h') = routesOf h ++ routesOf h' := by
  unfold routesOf
  rw [linesOf_append, List.flatMap_append]

theorem routesOf_append_setTravelTime (a b : String) (t : UInt32) :
    routesOf (h ++ [.setTravelTime a b t]) = routesOf h := by
  rw [routesOf_append]
  exact List.append_nil _

theorem lastTime_append (a b : String) :
    lastTime (h ++ h') a b = (lastTime h' a b).or (lastTime h a b) := by
  unfold lastTime timesOf
  rw [List.filterMap_append, List.getLast?_append]

/-- Times that are set on other pairs in between do not count. -/
example :
    lastTime [.setTravelTime "a" "b" 5, .setTravelTime "b" "a" 3, .setTravelTime "b" "c" 7]
      "a" "b" = some 3 := by
  decide

end Append

namespace Network

variable {n n' : Network} {config : Config} {h : List Call}

/-! ### What is recorded -/

/-- The time between two stations by id, zero where one of them is unknown. -/
def timeBetween (n : Network) (a b : String) : UInt32 :=
  match n.station? a, n.station? b with
  | some x, some y => n.timeOn (x, y)
  | _, _ => 0

/-- The stored route `x` is the route of a line as it was added. -/
structure Stores (n : Network) (x : StoredRoute) (entry : Line × Route) : Prop where
  id : x.id = entry.2.id
  direction : x.direction = entry.2.direction
  line : (n.lines[x.line.index]?).map (·.id) = some entry.1.id
  stops : x.stops.map some = entry.2.stops.map n.station?

/-- The network is what the calls, each one accepted in its turn, have made of an empty one. -/
structure Records (n : Network) (config : Config) (h : List Call) : Prop where
  coherent : n.Coherent
  setup : n.config = config
  stations : n.stationIds = (stationsOf h).map (·.id)
  routes : List.Forall₂ n.Stores n.routes.toList (routesOf h)
  lines : n.lineIds = (linesOf h).map (·.id)
  times : ∀ a b, n.timeBetween a b = (lastTime h a b).getD 0
  well_formed : config.strictRoutes = true → ∀ l ∈ linesOf h,
    l.check = .ok () ∧ ∀ r ∈ l.routes, r.check = .ok ()

theorem Records.empty (config : Config) : Records { config := config } config [] where
  coherent := .empty config
  setup := rfl
  stations := rfl
  routes := .nil
  lines := rfl
  times _ _ := rfl
  well_formed _ := by simp [linesOf]

/-- The stops of a stored route are stations. -/
theorem Stores.known {x : StoredRoute} {entry : Line × Route} (hx : n.Stores x entry)
    {stop : String} (hstop : stop ∈ entry.2.stops) : ∃ s, n.station? stop = some s := by
  have hm : n.station? stop ∈ x.stops.map some := hx.stops ▸ List.mem_map_of_mem hstop
  obtain ⟨s, -, hs⟩ := List.mem_map.1 hm
  exact ⟨s, hs.symm⟩

/-- A stored route stays as it is when ids keep their stations and handles keep their lines. -/
theorem Stores.mono {x : StoredRoute} {entry : Line × Route} (hx : n.Stores x entry)
    (hs : ∀ id s, n.station? id = some s → n'.station? id = some s)
    (hl : ∀ (l : Handle .line) line, n.lines[l.index]? = some line →
      n'.lines[l.index]? = some line) : n'.Stores x entry where
  id := hx.id
  direction := hx.direction
  line := by
    obtain ⟨line, hline, hid⟩ := Option.map_eq_some_iff.1 hx.line
    rw [hl _ _ hline, Option.map_some, hid]
  stops := by
    rw [hx.stops]
    refine List.map_congr_left fun stop hstop => ?_
    obtain ⟨s, hsome⟩ := hx.known hstop
    rw [hsome, hs stop s hsome]

/-- Every stored route was added. -/
theorem Records.exists_added (hn : n.Records config h) {x : StoredRoute}
    (hx : x ∈ n.routes.toList) : ∃ entry ∈ routesOf h, n.Stores x entry :=
  exists_of_forall₂ hn.routes hx

/-- Every route that was added is stored. -/
theorem Records.exists_stored (hn : n.Records config h) {entry : Line × Route}
    (hentry : entry ∈ routesOf h) : ∃ x ∈ n.routes.toList, n.Stores x entry :=
  exists_of_forall₂ (R := fun entry x => n.Stores x entry) hn.routes.flip hentry

theorem Records.routeIds (hn : n.Records config h) : n.routeIds = (routesOf h).map (·.2.id) :=
  map_eq_map_iff_forall₂.2 (hn.routes.imp fun _ _ hx => hx.id)

section Growth

variable {later : List Call}

/-- The stations of a longer history come behind those of the shorter one. -/
theorem Records.stationIds_append (hn : n.Records config h)
    (hn' : n'.Records config (h ++ later)) :
    n'.stationIds = n.stationIds ++ (stationsOf later).map (·.id) := by
  rw [hn'.stations, stationsOf_append, List.map_append, hn.stations]

theorem Records.lineIds_append (hn : n.Records config h) (hn' : n'.Records config (h ++ later)) :
    n'.lineIds = n.lineIds ++ (linesOf later).map (·.id) := by
  rw [hn'.lines, linesOf_append, List.map_append, hn.lines]

theorem Records.routeIds_append (hn : n.Records config h) (hn' : n'.Records config (h ++ later)) :
    n'.routeIds = n.routeIds ++ (routesOf later).map (·.2.id) := by
  rw [hn'.routeIds, routesOf_append, List.map_append, hn.routeIds]

end Growth

/-! ### Recording a call -/

theorem station?_pushStation (s : Station) (id : String) :
    (n.pushStation s).station? id = if id = s.id then some ⟨n.nodes.size⟩ else n.station? id :=
  Directory.get?_insert _ _ _ _

/-- A new station is no neighbour of any. -/
theorem timeBetween_pushStation (hn : n.Coherent) {s : Station} (hid : s.id ∉ n.stationIds)
    (a b : String) : (n.pushStation s).timeBetween a b = n.timeBetween a b := by
  have hnone : n.station? s.id = none := hn.stationHandles.get?_eq_none_iff.2 hid
  have hfresh : ∀ p : Handle .station × Handle .station,
      p.1 = ⟨n.nodes.size⟩ ∨ p.2 = ⟨n.nodes.size⟩ → (n.pushStation s).timeOn p = 0 := by
    intro p hp
    show n.timeOn p = 0
    refine timeOn_eq_zero fun hm => ?_
    obtain ⟨h₁, h₂⟩ := hn.meshed.bounded p hm
    rcases hp with hp | hp
    · rw [hp] at h₁
      exact absurd h₁ (Nat.lt_irrefl _)
    · rw [hp] at h₂
      exact absurd h₂ (Nat.lt_irrefl _)
  unfold timeBetween
  rw [station?_pushStation, station?_pushStation]
  -- zero before because the id was unknown, and zero after because no edge touches the station
  by_cases ha : a = s.id
  · rw [if_pos ha, ha, hnone]
    split
    · rename_i x y hx hy
      cases hx
      exact hfresh _ (Or.inl rfl)
    · rfl
  · rw [if_neg ha]
    by_cases hb : b = s.id
    · rw [if_pos hb, hb, hnone]
      cases n.station? a with
      | none => rfl
      | some x => exact hfresh _ (Or.inr rfl)
    · rw [if_neg hb]
      rfl

/-- A call that adds no line is recorded when the stations and the times are those that it leaves
and everything about lines is as it was. -/
theorem Records.of_no_line (hn : n.Records config h) {c : Call} (hc : linesOf [c] = [])
    (coherent : n'.Coherent) (setup : n'.config = n.config) (routes : n'.routes = n.routes)
    (lines : n'.lines = n.lines)
    (known : ∀ id s, n.station? id = some s → n'.station? id = some s)
    (stations : n'.stationIds = n.stationIds ++ (stationsOf [c]).map (·.id))
    (times : ∀ a b, n'.timeBetween a b = ((lastTime [c] a b).or (lastTime h a b)).getD 0) :
    n'.Records config (h ++ [c]) := by
  have hlines : linesOf (h ++ [c]) = linesOf h := by rw [linesOf_append, hc, List.append_nil]
  constructor
  · exact coherent
  · rw [setup, hn.setup]
  · rw [stations, stationsOf_append, List.map_append, hn.stations]
  · rw [routes, routesOf, hlines]
    refine hn.routes.imp fun x entry hx => hx.mono known fun k line hk => ?_
    rw [lines, hk]
  · rw [hlines, ← hn.lines, lineIds, lines]
    rfl
  · intro a b
    rw [times, lastTime_append]
  · rw [hlines]
    exact hn.well_formed

theorem Records.pushStation (hn : n.Records config h) {s : Station} (hid : s.id ∉ n.stationIds) :
    (n.pushStation s).Records config (h ++ [.addStation s]) := by
  refine hn.of_no_line rfl (hn.coherent.pushStation hid) rfl rfl rfl ?_ ?_ ?_
  · intro id x hx
    have hne : id ≠ s.id := by
      rintro rfl
      rw [station?, hn.coherent.stationHandles.get?_eq_none_iff.2 hid] at hx
      cases hx
    rw [station?_pushStation, if_neg hne, hx]
  · simp [Network.pushStation, stationIds, stationsOf]
  · intro a b
    rw [timeBetween_pushStation hn.coherent hid, hn.times]
    rfl

theorem Records.installed (hn : n.Records config h) {l : Line} (hl : n.Admits l)
    (hn' : Installed n n' l (n.resolved l)) : n'.Records config (h ++ [.addLine l]) := by
  have hstation : ∀ id, n'.station? id = n.station? id := by
    intro id
    show n'.bare.station? id = n.bare.station? id
    rw [hn'.bare]
    rfl
  have hlines : ∀ (k : Handle .line) line, n.lines[k.index]? = some line →
      n'.lines[k.index]? = some line := by
    intro k line hk
    rw [← Array.getElem?_toList] at hk ⊢
    rw [hn'.lines, List.getElem?_append_left (List.getElem?_eq_some_iff.1 hk).1, hk]
  have hnew : linesOf [.addLine l] = [l] := rfl
  constructor
  · exact hn'.coherent
  · rw [← hn.setup]
    simpa using congrArg (fun m : Network => m.config) hn'.bare
  · have hids := congrArg stationIds hn'.bare
    rw [stationIds_bare] at hids
    rw [hids, stationsOf_append]
    show n.bare.stationIds = (stationsOf h ++ []).map _
    rw [stationIds_bare, List.append_nil, hn.stations]
  · rw [hn'.routes, routesOf_append]
    -- the routes of old, whose lines and stops are still there, and then those of the line
    refine List.rel_append (hn.routes.imp fun x entry hx => ?_) ?_
    · exact hx.mono (fun id s hs => by rw [hstation, hs]) hlines
    · rw [routesOf, hnew, List.flatMap_singleton, resolved, List.map_map,
        List.forall₂_map_left_iff, List.forall₂_map_right_iff, List.forall₂_same]
      intro r hr
      constructor
      · rfl
      · rfl
      · show (n'.lines[n.lines.size]?).map (·.id) = some l.id
        rw [← Array.getElem?_toList, hn'.lines]
        simp [storedLine]
      · show (n.stopHandles r).map some = r.stops.map n'.station?
        rw [map_stopHandles hn.coherent.toRouted (hl.stops_known r hr)]
        exact List.map_congr_left fun stop _ => (hstation stop).symm
  · rw [lineIds, hn'.lines, linesOf_append, hnew, List.map_append, List.map_append, ← hn.lines]
    rfl
  · intro a b
    rw [lastTime_append]
    show n'.timeBetween a b = (lastTime h a b).getD 0
    rw [← hn.times]
    unfold timeBetween
    simp only [hstation, hn'.timeOn]
  · intro hs k hk
    rw [linesOf_append, hnew, List.mem_append, List.mem_singleton] at hk
    rcases hk with hk | rfl
    · exact hn.well_formed hs k hk
    · exact hl.well_formed (hn.setup ▸ hs)

/-- A time counts between the two stations that it was set between, and nowhere else. -/
theorem timeBetween_timed (hn : n.Coherent) {a b : String} {x y : Handle .station} {t : UInt32}
    (hx : n.station? a = some x) (hy : n.station? b = some y)
    (hn' : Timed n n' [(x, y), (y, x)] t) (c d : String) :
    n'.timeBetween c d =
      if (a = c ∧ b = d) ∨ (a = d ∧ b = c) then t else n.timeBetween c d := by
  -- ids that are known are equal when their handles are
  have hsame : ∀ {id id' : String} {s s' : Handle .station}, n.station? id = some s →
      n.station? id' = some s' → (id = id' ↔ s' = s) := by
    intro id id' s s' hs hs'
    constructor
    · rintro rfl
      rw [hs, Option.some.injEq] at hs'
      exact hs'.symm
    · rintro rfl
      exact hn.station?_inj hs hs'
  unfold timeBetween
  rw [station?_of_bare hn'.bare, station?_of_bare hn'.bare]
  cases hc : n.station? c with
  | none =>
    -- an unknown id is neither of the two, which are known
    rw [if_neg]
    rintro (⟨rfl, -⟩ | ⟨-, rfl⟩)
    · rw [hx] at hc
      cases hc
    · rw [hy] at hc
      cases hc
  | some x' =>
    cases hd : n.station? d with
    | none =>
      rw [if_neg]
      rintro (⟨-, rfl⟩ | ⟨rfl, -⟩)
      · rw [hy] at hd
        cases hd
      · rw [hx] at hd
        cases hd
    | some y' =>
      have hmem : (x', y') ∈ [(x, y), (y, x)] ↔ (a = c ∧ b = d) ∨ (a = d ∧ b = c) := by
        rw [hsame hx hc, hsame hy hd, hsame hx hd, hsame hy hc]
        simp only [List.mem_cons, Prod.mk.injEq, List.not_mem_nil, or_false]
        tauto
      simp only [hn'.timeOn, hmem]

theorem Records.timed (hn : n.Records config h) {a b : String} {x y : Handle .station}
    {t : UInt32} (hx : n.station? a = some x) (hy : n.station? b = some y)
    (hn' : Timed n n' [(x, y), (y, x)] t) :
    n'.Records config (h ++ [.setTravelTime a b t]) := by
  obtain ⟨hconfig, -, hroutes, hlines, -⟩ := bare_eq_iff.1 hn'.bare
  refine hn.of_no_line rfl (hn.coherent.timed hn') hconfig hroutes hlines ?_ ?_ ?_
  · intro id s hs
    rw [station?_of_bare hn'.bare, hs]
  · rw [stationIds_of_bare hn'.bare]
    exact (List.append_nil _).symm
  · intro c d
    rw [timeBetween_timed hn.coherent hx hy hn', hn.times]
    by_cases hcd : (a = c ∧ b = d) ∨ (a = d ∧ b = c) <;> simp [lastTime, timesOf, hcd]

theorem Records.booked (hn : n.Records config h) (e : PassengerEvent) (s : Handle .station) :
    (n.booked s e.delta).Records config (h ++ [.record e]) := by
  refine hn.of_no_line rfl (hn.coherent.booked s e.delta) rfl rfl rfl (fun _ _ hs => hs) ?_ ?_
  · rw [stationIds_of_sansPassengers (sansPassengers_booked s e.delta)]
    exact (List.append_nil _).symm
  · exact hn.times

/-! ### Whole runs -/

/-- The effect of a granted call is recorded. -/
theorem Records.effect (hn : n.Records config h) {c : Call} (hc : n.Effect c n') :
    n'.Records config (h ++ [c]) := by
  cases hc with
  | addStation hid => exact hn.pushStation hid
  | addLine hl hn' => exact hn.installed hl hn'
  | setTravelTime hx hy hn' => exact hn.timed hx hy hn'
  | record _ => exact hn.booked _ _

/-- Calls that are granted one after the other are recorded in their order. -/
theorem Records.attempt (hn : n.Records config h) {cs : List Call}
    (hcs : n.attempt cs = .ok ⟨.ok (), n'⟩) : n'.Records config (h ++ cs) := by
  refine attempt_invariant hn.coherent (fun done m => m.Records config (h ++ done)) ?_ ?_ hcs
  · rwa [List.append_nil]
  · intro done c m m' _ hm hc
    rw [← List.append_assoc]
    exact hm.effect hc

/-- A request is served, and what was granted of it is recorded. -/
theorem Records.serve (hn : n.Records config h) (r : Request) :
    ∃ o granted, n.serve r = .ok o ∧ n.granted r.calls = .ok granted ∧
      o.network.Records config (h ++ granted) := by
  obtain ⟨o, granted, ho, hgranted, hreplay⟩ := serve_replay hn.coherent r
  exact ⟨o, granted, ho, hgranted, hn.attempt hreplay⟩

/-- Every session ends, and its last network records the calls accepted on the way. -/
theorem exists_session (config : Config) (rs : List Request) :
    ∃ n h, session { config := config } rs = .ok n ∧ accepted { config := config } rs = .ok h ∧
      n.Records config h := by
  obtain ⟨n, h, hn, hh, hreplay⟩ := session_replay (.empty config) rs
  exact ⟨n, h, hn, hh, (Records.empty config).attempt hreplay⟩

end Network

end Transit
