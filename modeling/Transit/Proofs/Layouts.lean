import Transit.Proofs.Determined
import Transit.Proofs.Verdicts

/-!
# Loading layouts

* `Network.Fits n L` says what a layout has to be like to be loaded, all at once: new ids, known
  stops, right shapes, and travel times between neighbours.
* `session_load`: a layout is loaded exactly when it fits, and then the tables grow by its items.
* `load_append`: loading two layouts one after the other is loading both at once.
-/

namespace Transit

/-- The routes of a layout, line by line. -/
def Layout.routes (L : Layout) : List Route := L.lines.flatMap (·.routes)

/-! ### The calls of a layout -/

section Calls

variable {config : Config} {h : List Call} (L L₁ L₂ : Layout)

theorem stationsOf_calls : stationsOf L.calls = L.stations := by
  simp [stationsOf, Layout.calls, List.filterMap_append, List.filterMap_map]

theorem linesOf_calls : linesOf L.calls = L.lines := by
  simp [linesOf, Layout.calls, List.filterMap_append, List.filterMap_map]

theorem eventsOf_calls : eventsOf L.calls = [] := by
  simp [eventsOf, Layout.calls, List.filterMap_append, List.filterMap_map]

theorem timesOf_calls (a b : String) :
    timesOf L.calls a b = L.travelTimes.filterMap fun t =>
      if (t.start = a ∧ t.terminus = b) ∨ (t.start = b ∧ t.terminus = a) then some t.time
      else none := by
  simp [timesOf, Layout.calls, List.filterMap_append, List.filterMap_map]

/-- Two stations that are neighbours on a route in the end were so before, or became so since. -/
theorem neighbours_append (h h' : List Call) (a b : String) :
    (∃ entry ∈ routesOf (h ++ h'), Neighbours a b entry.2.stops) ↔
      (∃ entry ∈ routesOf h, Neighbours a b entry.2.stops) ∨
        ∃ r ∈ (linesOf h').flatMap (·.routes), Neighbours a b r.stops := by
  rw [← map_routesOf, routesOf_append]
  simp only [List.mem_append, or_and_right, exists_or, List.mem_map, exists_exists_and_eq_and]

/-- Two layouts, one after the other, bring what both bring at once. -/
theorem agree_append (h : List Call) :
    Agree (h ++ (L₁ ++ L₂).calls) (h ++ L₁.calls ++ L₂.calls) where
  stations := by
    rw [List.append_assoc]
    simp only [stationsOf_append, stationsOf_calls]
    rfl
  lines := by
    rw [List.append_assoc]
    simp only [linesOf_append, linesOf_calls]
    rfl
  times a b := by
    -- the times come in the same order, whatever other calls stand between them
    have htimes : timesOf (L₁.calls ++ L₂.calls) a b = timesOf (L₁ ++ L₂).calls a b := by
      rw [timesOf, List.filterMap_append]
      show timesOf L₁.calls a b ++ timesOf L₂.calls a b = _
      rw [timesOf_calls, timesOf_calls, timesOf_calls, ← List.filterMap_append]
      rfl
    have hlast : lastTime (L₁.calls ++ L₂.calls) a b = lastTime (L₁ ++ L₂).calls a b := by
      rw [lastTime, htimes, lastTime]
    rw [List.append_assoc]
    calc lastTime (h ++ (L₁ ++ L₂).calls) a b
        = (lastTime (L₁ ++ L₂).calls a b).or (lastTime h a b) := lastTime_append a b
      _ = (lastTime (L₁.calls ++ L₂.calls) a b).or (lastTime h a b) := by rw [hlast]
      _ = lastTime (h ++ (L₁.calls ++ L₂.calls)) a b := (lastTime_append a b).symm
  balances station := by
    have hnone : eventsOf (L₁.calls ++ L₂.calls) = [] := by
      rw [eventsOf_append, eventsOf_calls, eventsOf_calls, List.append_nil]
    rw [List.append_assoc, balance_append_of_no_event (eventsOf_calls _),
      balance_append_of_no_event hnone]

/-! ### What is allowed, phase by phase -/

theorem allowsAll_stations (ss : List Station) :
    AllowsAll config h (ss.map .addStation) ↔
      Fresh ((stationsOf h).map (·.id)) (ss.map (·.id)) := by
  induction ss generalizing h with
  | nil => simp [AllowsAll]
  | cons s ss ih =>
    rw [List.map_cons, AllowsAll, ih, stationsOf_append, List.map_append, List.map_cons, fresh_cons]
    rfl

theorem allowsAll_lines (ls : List Line) :
    AllowsAll config h (ls.map .addLine) ↔
      Fresh ((linesOf h).map (·.id)) (ls.map (·.id)) ∧
      Fresh ((routesOf h).map (·.2.id)) ((ls.flatMap (·.routes)).map (·.id)) ∧
      (∀ r ∈ ls.flatMap (·.routes), ∀ stop ∈ r.stops, stop ∈ (stationsOf h).map (·.id)) ∧
      (config.strictRoutes = true →
        ∀ l ∈ ls, l.check = .ok () ∧ ∀ r ∈ l.routes, r.check = .ok ()) := by
  induction ls generalizing h with
  | nil => simp [AllowsAll]
  | cons l ls ih =>
    -- for the other lines, the ids of this one are among those that are there already
    have hstations : stationsOf (h ++ [.addLine l]) = stationsOf h := by
      rw [stationsOf_append]
      exact List.append_nil _
    have hlines : (linesOf (h ++ [.addLine l])).map (·.id) = (linesOf h).map (·.id) ++ [l.id] := by
      rw [linesOf_append, List.map_append]
      rfl
    have hroutes : (routesOf (h ++ [.addLine l])).map (·.2.id) =
        (routesOf h).map (·.2.id) ++ l.routes.map (·.id) := by
      rw [routesOf_append, List.map_append]
      simp [routesOf, linesOf, Function.comp_def]
    rw [List.map_cons, AllowsAll, ih, hstations, hlines, hroutes, Allows, allowsLine_iff,
      List.flatMap_cons, List.map_cons, List.map_append, fresh_cons, fresh_append]
    simp only [List.forall_mem_append, List.forall_mem_cons]
    constructor
    · rintro ⟨⟨hl, hr, hs, hw⟩, hls, hrs, hss, hws⟩
      exact ⟨⟨hl, hls⟩, ⟨hr, hrs⟩, ⟨hs, hss⟩, fun strict => ⟨hw strict, hws strict⟩⟩
    · rintro ⟨⟨hl, hls⟩, ⟨hr, hrs⟩, ⟨hs, hss⟩, hw⟩
      exact ⟨⟨hl, hr, hs, fun strict => (hw strict).1⟩, hls, hrs, hss, fun strict => (hw strict).2⟩

theorem allowsAll_travelTimes (ts : List TravelTime) :
    AllowsAll config h (ts.map fun t => .setTravelTime t.start t.terminus t.time) ↔
      ∀ t ∈ ts, ∃ entry ∈ routesOf h, Neighbours t.start t.terminus entry.2.stops := by
  induction ts generalizing h with
  | nil => simp [AllowsAll]
  | cons t ts ih =>
    rw [List.map_cons, AllowsAll, ih, routesOf_append_setTravelTime, List.forall_mem_cons]
    rfl

end Calls

namespace Network

variable {n n' n₁ n₂ : Network} {config : Config} {h : List Call} {L L₁ L₂ : Layout}

/-! ### Layouts that fit -/

/-- Two ids are those of stations that are neighbours on a route of the network. -/
def Joins (n : Network) (a b : String) : Prop :=
  ∃ x y, n.station? a = some x ∧ n.station? b = some y ∧
    ∃ r ∈ n.routes.toList, Neighbours x y r.stops

/-- What a layout has to be like to be loaded.

* `stations`, `lines` and `routes`: its ids are distinct, and new to the network.
* `stops`: every stop is a station of the network or of the layout.
* `well_formed`: under strict rules, every line and every route has the right shape.
* `travelTimes`: a time is set between neighbours on a route of the network or of the layout. -/
@[mk_iff]
structure Fits (n : Network) (L : Layout) : Prop where
  stations : Fresh n.stationIds (L.stations.map (·.id))
  lines : Fresh n.lineIds (L.lines.map (·.id))
  routes : Fresh n.routeIds (L.routes.map (·.id))
  stops : ∀ r ∈ L.routes, ∀ stop ∈ r.stops,
    stop ∈ n.stationIds ∨ stop ∈ L.stations.map (·.id)
  well_formed : n.config.strictRoutes = true →
    ∀ l ∈ L.lines, l.check = .ok () ∧ ∀ r ∈ l.routes, r.check = .ok ()
  travelTimes : ∀ t ∈ L.travelTimes,
    n.Joins t.start t.terminus ∨ ∃ r ∈ L.routes, Neighbours t.start t.terminus r.stops

theorem Records.joins_iff (hn : n.Records config h) {a b : String} :
    n.Joins a b ↔ ∃ entry ∈ routesOf h, Neighbours a b entry.2.stops := by
  rw [← hn.adjacent_iff, Joins, Adjacent]
  simp only [hn.coherent.mem_ends_iff]

/-- A layout is loaded exactly when it fits. -/
theorem Records.load_granted_iff (hn : n.Records config h) :
    (∃ n', n.load L = .ok ⟨.ok (), n'⟩) ↔ n.Fits L := by
  have hstations : stationsOf (h ++ L.stations.map .addStation) = stationsOf h ++ L.stations := by
    rw [stationsOf_append]
    simp [stationsOf, List.filterMap_map]
  have hlines : linesOf (h ++ L.stations.map .addStation) = linesOf h := by
    rw [linesOf_append]
    simp [linesOf]
  have hroutes : routesOf (h ++ L.stations.map .addStation) = routesOf h := by
    rw [routesOf, hlines, routesOf]
  have hnew : linesOf (L.stations.map .addStation ++ L.lines.map .addLine) = L.lines := by
    simp [linesOf, List.filterMap_append, List.filterMap_map]
  rw [load, hn.attempt_granted_iff, Layout.calls, allowsAll_append, allowsAll_append,
    allowsAll_stations, allowsAll_lines, allowsAll_travelTimes, hstations, hlines, hroutes,
    fits_iff, hn.stations, hn.lines, hn.routeIds, hn.setup, Layout.routes]
  simp only [neighbours_append, hnew, hn.joins_iff, List.map_append, List.mem_append, and_assoc]

/-- After a layout, stations are neighbours that were so before, or are so on its routes. -/
theorem Records.joins_append (hn : n.Records config h) (hn' : n'.Records config (h ++ L.calls))
    (a b : String) : n'.Joins a b ↔ n.Joins a b ∨ ∃ r ∈ L.routes, Neighbours a b r.stops := by
  rw [hn'.joins_iff, hn.joins_iff, neighbours_append, linesOf_calls]
  rfl

/-- The ids of a network that has loaded a layout are those of before and then the layout's. -/
theorem Records.ids_load (hn : n.Records config h) (hn' : n'.Records config (h ++ L.calls)) :
    n'.stationIds = n.stationIds ++ L.stations.map (·.id) ∧
      n'.lineIds = n.lineIds ++ L.lines.map (·.id) ∧
      n'.routeIds = n.routeIds ++ L.routes.map (·.id) := by
  have hroutes : (routesOf L.calls).map (·.2.id) = L.routes.map (·.id) := by
    have hmap := map_routesOf L.calls
    rw [linesOf_calls] at hmap
    rw [Layout.routes, ← hmap, List.map_map]
    rfl
  refine ⟨?_, ?_, ?_⟩
  · rw [hn.stationIds_append hn', stationsOf_calls]
  · rw [hn.lineIds_append hn', linesOf_calls]
  · rw [hn.routeIds_append hn', hroutes]

/-- A layout that fits after another one fits together with it. -/
theorem Fits.append (hn : n.Records config h) (hn₁ : n₁.Records config (h ++ L₁.calls))
    (h₁ : n.Fits L₁) (h₂ : n₁.Fits L₂) : n.Fits (L₁ ++ L₂) := by
  obtain ⟨hstations, hlines, hroutes⟩ := hn.ids_load hn₁
  have happend : (L₁ ++ L₂).routes = L₁.routes ++ L₂.routes := List.flatMap_append
  have hsetup : n₁.config = n.config := by rw [hn₁.setup, hn.setup]
  constructor
  · show Fresh _ ((L₁.stations ++ L₂.stations).map _)
    rw [List.map_append]
    exact fresh_append.2 ⟨h₁.stations, hstations ▸ h₂.stations⟩
  · show Fresh _ ((L₁.lines ++ L₂.lines).map _)
    rw [List.map_append]
    exact fresh_append.2 ⟨h₁.lines, hlines ▸ h₂.lines⟩
  · rw [happend, List.map_append]
    exact fresh_append.2 ⟨h₁.routes, hroutes ▸ h₂.routes⟩
  · -- the second layout may stop at stations of the first one, not the other way round
    intro r hr stop hstop
    show stop ∈ n.stationIds ∨ stop ∈ (L₁.stations ++ L₂.stations).map _
    rw [List.map_append, List.mem_append]
    rw [happend, List.mem_append] at hr
    rcases hr with hr | hr
    · exact (h₁.stops r hr stop hstop).imp_right .inl
    · have hstop₂ := h₂.stops r hr stop hstop
      rwa [hstations, List.mem_append, or_assoc] at hstop₂
  · intro strict l hl
    rcases List.mem_append.1 hl with hl | hl
    · exact h₁.well_formed strict l hl
    · exact h₂.well_formed (hsetup ▸ strict) l hl
  · intro t ht
    rw [happend]
    simp only [List.mem_append, or_and_right, exists_or]
    rcases List.mem_append.1 ht with ht | ht
    · exact (h₁.travelTimes t ht).imp_right .inl
    · have ht₂ := h₂.travelTimes t ht
      rwa [hn.joins_append hn₁, or_assoc] at ht₂

/-- Loading one layout and then another is loading both at once, with the very same network in the
end. -/
theorem load_append (hn : n.Reachable) (h₁ : n.load L₁ = .ok ⟨.ok (), n₁⟩)
    (h₂ : n₁.load L₂ = .ok ⟨.ok (), n₂⟩) : n.load (L₁ ++ L₂) = .ok ⟨.ok (), n₂⟩ := by
  obtain ⟨config, h, hh⟩ := hn.holds
  have hh₁ := hh.attempt h₁
  have hh₂ := hh₁.attempt h₂
  have hfits := Fits.append hh.toRecords hh₁.toRecords (hh.load_granted_iff.1 ⟨n₁, h₁⟩)
    (hh₁.load_granted_iff.1 ⟨n₂, h₂⟩)
  -- so both at once are granted, and the two histories leave no room for another network
  obtain ⟨n₃, h₃⟩ := hh.load_granted_iff.2 hfits
  rw [h₃, (hh.attempt h₃).unique hh₂ (agree_append L₁ L₂ h)]

/-- A layout that travels back where the first one went, and sets the time between its stations
again: the route of the first one takes the new time, and the way back adds it to its own. -/
theorem load_append_back :
    ∃ n n₁ n₂,
      session { config := { strictRoutes := true } } [.call (.addStation ⟨"a", "A"⟩)] =
        .ok n ∧
      n.load ⟨[⟨"b", "B"⟩], [⟨"l", "Line", [⟨"r", "out", "l", "a", "b", ["a", "b"]⟩]⟩],
        [⟨"a", "b", 5⟩]⟩ = .ok ⟨.ok (), n₁⟩ ∧
      n₁.load ⟨[⟨"c", "C"⟩], [⟨"m", "Back", [⟨"s", "in", "m", "c", "a", ["c", "b", "a"]⟩]⟩],
        [⟨"b", "a", 7⟩, ⟨"b", "c", 2⟩]⟩ = .ok ⟨.ok (), n₂⟩ ∧
      n.load (⟨[⟨"b", "B"⟩], [⟨"l", "Line", [⟨"r", "out", "l", "a", "b", ["a", "b"]⟩]⟩],
          [⟨"a", "b", 5⟩]⟩ ++
        ⟨[⟨"c", "C"⟩], [⟨"m", "Back", [⟨"s", "in", "m", "c", "a", ["c", "b", "a"]⟩]⟩],
          [⟨"b", "a", 7⟩, ⟨"b", "c", 2⟩]⟩) = .ok ⟨.ok (), n₂⟩ ∧
      n₁.routeTime "l" "r" "a" "b" = .ok 5 ∧ n₂.routeTime "l" "r" "a" "b" = .ok 7 ∧
      n₂.routeTime "m" "s" "c" "a" = .ok 9 := by
  have hn : session { config := { strictRoutes := true } }
      [.call (.addStation ⟨"a", "A"⟩)] = .ok _ := rfl
  exact ⟨_, _, _, hn, rfl, rfl, load_append ⟨_, _, hn⟩ rfl rfl, rfl, rfl, rfl⟩

/-- The network of any session loads a layout exactly when it fits, and then has as many more
stations, lines and routes as the layout. -/
theorem session_load (config : Config) (requests : List Request) :
    ∃ n, session { config := config } requests = .ok n ∧ ∀ L, ∃ o, n.load L = .ok o ∧
      (o.verdict = .ok () ↔ n.Fits L) ∧
      (o.verdict = .ok () →
        o.network.statistics.stations = n.statistics.stations + L.stations.length ∧
        o.network.statistics.lines = n.statistics.lines + L.lines.length ∧
        o.network.statistics.routes = n.statistics.routes + L.routes.length) := by
  obtain ⟨n, h, hok, -, hn⟩ := exists_session config requests
  refine ⟨n, hok, fun L => ?_⟩
  obtain ⟨o, -, ho, -, -⟩ := attempt_replay hn.coherent L.calls
  refine ⟨o, ho, ?_, ?_⟩
  · rw [← hn.load_granted_iff]
    constructor
    · intro hv
      exact ⟨o.network, by rw [load, ho, ← hv]⟩
    · rintro ⟨n', hload⟩
      rw [load, ho, Except.ok.injEq] at hload
      rw [hload]
  · intro hv
    have hn' : o.network.Records config (h ++ L.calls) := hn.attempt (by rw [ho, ← hv])
    obtain ⟨hstations, hlines, hroutes⟩ := hn.ids_load hn'
    have hs := congrArg List.length hstations
    have hl := congrArg List.length hlines
    have hr := congrArg List.length hroutes
    simp only [List.length_append, List.length_map, length_stationIds, length_lineIds,
      length_routeIds] at hs hl hr
    exact ⟨hs, hl, hr⟩

end Network

end Transit
