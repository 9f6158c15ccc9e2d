import Transit.Proofs.History
import Transit.Proofs.Lookups

/-!
# Ids, handles, and the division of the routes among the lines

`Network.Indexed` says in terms of the tables alone that ids and handles stand for each other, and
that every route is listed once, by the line that it names. Coherent networks have it, and so a
route is found on a line exactly when it is one of the routes of the line.
-/

namespace Transit

/-- Ids and handles stand for each other, and lines divide the routes.

* `stations`, `routes` and `lines`: an id is looked up to the one position that stores it, and to
  none when no position does.
* `distinct`: no table stores an id twice.
* `listed`: the line that a route names lists it once, and no other line lists it.
* `known`: a line lists routes of the table, and they name it.
* `inOrder`: the lists of all lines, one after the other, are the handles of all routes in order. -/
structure Network.Indexed (n : Network) : Prop where
  stations : ∀ id s, n.station? id = some s ↔ ∃ x, n.node s = .ok x ∧ x.id = id
  routes : ∀ id r, n.route? id = some r ↔ ∃ x, n.route r = .ok x ∧ x.id = id
  lines : ∀ id l, n.line? id = some l ↔ ∃ x, n.line l = .ok x ∧ x.id = id
  distinct : n.stationIds.Nodup ∧ n.routeIds.Nodup ∧ n.lineIds.Nodup
  listed : ∀ r x, n.route r = .ok x → ∃ line, n.line x.line = .ok line ∧ line.routes.count r = 1 ∧
    ∀ l line', n.line l = .ok line' → r ∈ line'.routes → l = x.line
  known : ∀ l line, n.line l = .ok line → ∀ r ∈ line.routes, ∃ x, n.route r = .ok x ∧ x.line = l
  inOrder : n.lines.toList.flatMap (·.routes) = handles .route n.routes.size

namespace Network

variable {n : Network}

theorem nodup_handles (kind : Kind) (size : Nat) : (handles kind size).Nodup :=
  List.nodup_range.map fun _ _ he => congrArg Handle.index he

/-- No line lists a route twice. -/
theorem Coherent.nodup_line_routes (hn : n.Coherent) {line : StoredLine}
    (hline : line ∈ n.lines.toList) : line.routes.Nodup := by
  have hall := nodup_handles .route n.routes.size
  rw [← hn.lineRoutes] at hall
  exact (List.nodup_flatMap.1 hall).1 line hline

theorem Coherent.indexed (hn : n.Coherent) : n.Indexed where
  stations id s := by simp only [node_eq_ok_iff, hn.station?_iff]
  routes id r := by simp only [route_eq_ok_iff, hn.route?_iff]
  lines id l := by simp only [line_eq_ok_iff, hn.line?_iff]
  distinct := ⟨hn.stationHandles.nodup, hn.routeHandles.nodup, hn.lineHandles.nodup⟩
  listed r x hx := by
    rw [route_eq_ok_iff] at hx
    obtain ⟨line, hline, hr⟩ := hn.exists_listing hx
    have hmem : line ∈ n.lines.toList := mem_toList_of_getElem? hline
    refine ⟨line, line_eq_ok_iff.2 hline, ?_, ?_⟩
    · exact List.count_eq_one_of_mem (hn.nodup_line_routes hmem) hr
    · intro l line' hline' hr'
      obtain ⟨x', hx', hback⟩ := (hn.mem_line_routes (line_eq_ok_iff.1 hline')).1 hr'
      rw [hx, Option.some.injEq] at hx'
      rw [hx', hback]
  known l line hline r hr := by
    obtain ⟨x, hx, hback⟩ := (hn.mem_line_routes (line_eq_ok_iff.1 hline)).1 hr
    exact ⟨x, route_eq_ok_iff.2 hx, hback⟩
  inOrder := hn.lineRoutes

/-- A route is found on a line exactly when it is one of the routes of the line. -/
theorem routeOnLine?_iff_mem_routesOfLine (hn : n.Coherent) (line route : String) :
    ∃ found ids, n.routeOnLine? line route = .ok found ∧ n.routesOfLine line = .ok ids ∧
      (found.isSome ↔ route ∈ ids) := by
  obtain ⟨found, hfound, hiff⟩ := routeOnLine?_ok hn line route
  obtain ⟨ids, hids⟩ := routesOfLine_ok hn line
  refine ⟨found, ids, hfound, hids, ?_⟩
  rw [Option.isSome_iff_exists, mem_routesOfLine_iff hn hids]
  simp only [hiff]

/-- Whatever the calls, accepted or refused, ids and handles stand for each other, the lines divide
the routes, and a route is found on exactly the line that lists it. -/
theorem session_indexed (config : Config) (requests : List Request) :
    ∃ n, session { config := config } requests = .ok n ∧ n.Indexed ∧
      ∀ line route, ∃ found ids, n.routeOnLine? line route = .ok found ∧
        n.routesOfLine line = .ok ids ∧ (found.isSome ↔ route ∈ ids) := by
  obtain ⟨n, h, hok, -, hn⟩ := exists_session config requests
  exact ⟨n, hok, hn.coherent.indexed, routeOnLine?_iff_mem_routesOfLine hn.coherent⟩

end Network

end Transit
