import Transit.Proofs.Answers
import Transit.Proofs.Verdicts

/-!
# Adding a line disturbs no earlier answer

A new line may share stations and edges with those that are there. What was told before about times,
passengers and routes is told again.

* `timeIn_addLine` and `routeIn_addLine`: what a line changes in neither.
* `addLine_undisturbed`: the answers before and after a line is added. Among the routes that serve a
  station new ones may appear anywhere, and the others keep their order.
-/

namespace Transit

section Reading

variable {h : List Call} {l : Line}

theorem routesOf_addLine (l : Line) : routesOf [.addLine l] = l.routes.map fun r => (l, r) :=
  List.flatMap_singleton _ _

theorem map_id_routesOf_addLine (l : Line) :
    (routesOf [.addLine l]).map (·.2.id) = l.routes.map (·.id) := by
  rw [routesOf_addLine, List.map_map]
  rfl

/-- A line sets no time, also between stations that become neighbours with it. -/
theorem timeIn_addLine (h : List Call) (l : Line) (a b : String) :
    timeIn (h ++ [.addLine l]) a b = timeIn h a b := by
  rw [timeIn, timeIn, lastTime_append]
  rfl

/-- A route that is not among those of the line is found as before. -/
theorem routeIn_addLine {route : String} (hroute : route ∉ l.routes.map (·.id)) :
    routeIn (h ++ [.addLine l]) route = routeIn h route := by
  have hnone : (routesOf [.addLine l]).find? (·.2.id = route) = none := by
    rw [← Option.not_isSome_iff_eq_none, isSome_find?_iff, map_id_routesOf_addLine]
    exact hroute
  rw [routeIn, routesOf_append, List.find?_append, hnone, Option.or_none, routeIn]

end Reading

namespace Network

variable {n n' : Network} {l : Line}

/-- A line that is added disturbs no earlier answer: the times between stations, the passengers, the
times along routes that are not its own, and, once its own routes are left out, the list of routes
for every station are what they were. -/
theorem addLine_undisturbed (hn : n.Reachable) (hl : n.addLine l = .ok ⟨.ok (), n'⟩) :
    (∀ a b, n'.travelTime a b = n.travelTime a b) ∧
      (∀ station, n'.passengerCount station = n.passengerCount station) ∧
      (∀ line route, route ∉ l.routes.map (·.id) → ∀ a b,
        n'.routeTime line route a b = n.routeTime line route a b) ∧
      ∀ station, ∃ ids ids', n.routesServing station = .ok ids ∧
        n'.routesServing station = .ok ids' ∧ ids'.filter (· ∉ l.routes.map (·.id)) = ids := by
  obtain ⟨config, h, hh⟩ := hn.holds
  have hadded : n.Effect (.addLine l) n' := effect_of_apply hh.coherent hl
  have hh' : n'.Holds config (h ++ [.addLine l]) := hh.effect hadded
  refine ⟨fun a b => ?_, fun station => ?_, fun line route hroute a b => ?_, fun station => ?_⟩
  · rw [hh'.travelTime_eq, hh.travelTime_eq, timeIn_addLine]
  · have hids : n'.stationIds = n.stationIds := by
      rw [hh.stationIds_append hh'.toRecords]
      exact List.append_nil _
    rw [hh'.passengerCount_eq, hh.passengerCount_eq, hids, balance_append_of_no_event rfl]
  · rw [hh'.routeTime_eq, hh.routeTime_eq]
    exact routeTimeIn_congr (routeIn_addLine hroute) (timeIn_addLine h l) line a b
  · have hline : AllowsLine config h l :=
      hh.admits_iff.1 ((apply_eq_granted_iff (c := .addLine l) hh.coherent).1 ⟨n', hl⟩)
    have hnew : Fresh ((routesOf h).map (·.2.id)) ((routesOf [.addLine l]).map (·.2.id)) := by
      rw [map_id_routesOf_addLine]
      exact hline.routes
    have hfilter := filter_servingIn_append hnew station
    rw [map_id_routesOf_addLine] at hfilter
    exact ⟨_, _, hh.routesServing_eq station, hh'.routesServing_eq station, hfilter⟩

/-- At `b` the new route comes between the two that are there, for it joins `b` to the neighbour of
the first one. -/
theorem addLine_undisturbed_between :
    ∃ n n', session {} [.call (.addStation ⟨"a", "A"⟩), .call (.addStation ⟨"b", "B"⟩),
        .call (.addStation ⟨"c", "C"⟩),
        .call (.addLine ⟨"l", "Old", [.along "1" "" "l" ["a", "b"], .along "2" "" "l" ["b", "c"]]⟩),
        .call (.setTravelTime "a" "b" 5), .call (.record ⟨"b", .entry⟩)] = .ok n ∧
      n.addLine ⟨"m", "New", [.along "3" "" "m" ["b", "a", "c"]]⟩ = .ok ⟨.ok (), n'⟩ ∧
      n.routesServing "b" = .ok ["1", "2"] ∧ n'.routesServing "b" = .ok ["1", "3", "2"] ∧
      n'.travelTime "a" "c" = n.travelTime "a" "c" ∧
      n'.passengerCount "b" = n.passengerCount "b" ∧
      n'.routeTime "l" "1" "a" "b" = n.routeTime "l" "1" "a" "b" ∧
      ∃ ids ids', n.routesServing "b" = .ok ids ∧ n'.routesServing "b" = .ok ids' ∧
        ids'.filter (· ∉ ["3"]) = ids := by
  have hn : session {} [.call (.addStation ⟨"a", "A"⟩), .call (.addStation ⟨"b", "B"⟩),
      .call (.addStation ⟨"c", "C"⟩),
      .call (.addLine ⟨"l", "Old", [.along "1" "" "l" ["a", "b"], .along "2" "" "l" ["b", "c"]]⟩),
      .call (.setTravelTime "a" "b" 5), .call (.record ⟨"b", .entry⟩)] = .ok _ := rfl
  obtain ⟨htimes, hcounts, hroutes, hserving⟩ := addLine_undisturbed
    (l := ⟨"m", "New", [.along "3" "" "m" ["b", "a", "c"]]⟩) ⟨{}, _, hn⟩ rfl
  exact ⟨_, _, hn, rfl, rfl, rfl, htimes "a" "c", hcounts "b",
    hroutes "l" "1" (by decide) "a" "b", hserving "b"⟩

end Network

end Transit
