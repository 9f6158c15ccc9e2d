import Transit.Proofs.Answers

/-!
# The shape of routes and lines

Under strict rules a network takes routes and lines of the right shape only, and along such routes
positions and directions leave no doubt.

* `Route.WellFormed` and `Line.WellFormed` state the rules of shape that `Route.check` and
  `Line.check` test.
* `Network.ShapedAs n x r`: the stored route `x` is the route `r` and keeps its shape.
* `session_shapes`: after any session under strict rules, all routes and lines are of the right
  shape, with what follows for the queries.
-/

namespace Transit

/-- Nothing is repeated among elements that are distinct and were not seen before. -/
theorem firstRepeat_eq_none_iff {α : Type} [DecidableEq α] {seen as : List α} :
    firstRepeat seen as = none ↔ Fresh seen as := by
  induction as generalizing seen with
  | nil => simp [firstRepeat]
  | cons a as ih =>
    rw [firstRepeat, fresh_cons]
    by_cases ha : a ∈ seen
    · simp [ha]
    · have hsame : ∀ b, b ∈ a :: seen ↔ b ∈ seen ++ [a] := by simp [or_comm]
      rw [if_neg ha, ih, fresh_congr hsame]
      simp [ha]

theorem eq_of_map_some {α : Type} {o v : Option α} (h : o.map some = some v) : o = v := by
  cases o with
  | none => cases h
  | some a => exact Option.some.inj h

/-! ### The rules -/

/-- The rules of shape for a route: at least two stops, no stop twice, the start first and the
terminus last. -/
structure Route.WellFormed (r : Route) : Prop where
  two_le : 2 ≤ r.stops.length
  distinct : r.stops.Nodup
  start : r.stops.head? = some r.start
  terminus : r.stops.getLast? = some r.terminus

/-- The rules of shape for a line: at least one route, and each of them its own. -/
structure Line.WellFormed (l : Line) : Prop where
  routes : l.routes ≠ []
  own : ∀ r ∈ l.routes, r.lineId = l.id

theorem Route.check_eq_ok_iff {r : Route} : r.check = .ok () ↔ r.WellFormed := by
  unfold check
  split
  · rename_i hshort
    exact iff_of_false nofun fun h => absurd h.two_le (by omega)
  · rename_i hlong
    split
    · rename_i stop hrepeat
      refine iff_of_false nofun fun h => ?_
      rw [firstRepeat_eq_none_iff.2 ⟨h.distinct, fun _ _ => List.not_mem_nil⟩] at hrepeat
      cases hrepeat
    · rename_i hnone
      have hdistinct := (firstRepeat_eq_none_iff.1 hnone).distinct
      split
      · rename_i hstart
        exact iff_of_false nofun fun h => hstart h.start
      · rename_i hstart
        split
        · rename_i hterminus
          exact iff_of_false nofun fun h => hterminus h.terminus
        · rename_i hterminus
          exact iff_of_true rfl
            ⟨by omega, hdistinct, not_not.1 hstart, not_not.1 hterminus⟩

theorem Line.check_eq_ok_iff {l : Line} : l.check = .ok () ↔ l.WellFormed := by
  unfold check
  split
  · rename_i hempty
    exact iff_of_false nofun fun h => h.routes (List.isEmpty_iff.1 hempty)
  · rename_i hempty
    split
    · rename_i r hforeign
      have hne := List.find?_some hforeign
      refine iff_of_false nofun fun h => ?_
      simp [h.own r (List.mem_of_find?_eq_some hforeign)] at hne
    · rename_i hnone
      refine iff_of_true rfl ⟨fun he => hempty (List.isEmpty_iff.2 he), fun r hr => ?_⟩
      simpa using List.find?_eq_none.1 hnone r hr

namespace Network

variable {n : Network} {config : Config} {h : List Call}

/-! ### Stored routes -/

/-- The stored route `x` is the route `r`, stop by stop, and keeps the rules of shape. -/
structure ShapedAs (n : Network) (x : StoredRoute) (r : Route) : Prop where
  id : x.id = r.id
  stops : x.stops.map some = r.stops.map n.station?
  two_le : 2 ≤ x.stops.length
  distinct : x.stops.Nodup
  start : x.stops.head? = n.station? r.start
  terminus : x.stops.getLast? = n.station? r.terminus

/-- A stored route has the shape of the one that was added. -/
theorem Stores.shapedAs (hn : n.Routed) {x : StoredRoute} {entry : Line × Route}
    (hx : n.Stores x entry) (hr : entry.2.WellFormed) : n.ShapedAs x entry.2 where
  id := hx.id
  stops := hx.stops
  two_le := hx.forall₂_stops.length_eq ▸ hr.two_le
  distinct := by
    have hinj : ∀ a ∈ entry.2.stops, ∀ b ∈ entry.2.stops, n.station? a = n.station? b → a = b := by
      intro a ha b _ he
      obtain ⟨s, hs⟩ := hx.known ha
      exact hn.station?_inj hs (he ▸ hs)
    have hmap := hr.distinct.map_on hinj
    rw [← hx.stops] at hmap
    exact hmap.of_map some
  start := eq_of_map_some (by rw [← List.head?_map, hx.stops, List.head?_map, hr.start]; rfl)
  terminus := eq_of_map_some (by
    rw [← List.getLast?_map, hx.stops, List.getLast?_map, hr.terminus]; rfl)

/-! ### Positions and directions -/

/-- Of two stations on a route, one comes before the other. -/
theorem Records.direction_or (hn : n.Records config h) {entry : Line × Route}
    (hentry : entry ∈ routesOf h) {a b : String} (ha : a ∈ entry.2.stops)
    (hb : b ∈ entry.2.stops) (hab : a ≠ b) :
    (n.direction a b entry.2.id = .ok .outbound ∧ n.direction b a entry.2.id = .ok .inbound) ∨
      (n.direction a b entry.2.id = .ok .inbound ∧ n.direction b a entry.2.id = .ok .outbound) := by
  have hplaces : placeAmong entry.2.stops a ≠ placeAmong entry.2.stops b := by
    intro he
    have hstop := getElem?_placeAmong ha
    rw [he, getElem?_placeAmong hb] at hstop
    exact hab (Option.some.inj hstop).symm
  rw [hn.direction_added hentry, hn.direction_added hentry]
  unfold Direction.between
  rcases Nat.lt_or_gt_of_ne hplaces with hlt | hlt
  · left
    rw [if_pos (Nat.le_of_lt hlt), if_neg (Nat.not_le.2 hlt)]
    exact ⟨rfl, rfl⟩
  · right
    rw [if_neg (Nat.not_le.2 hlt), if_pos (Nat.le_of_lt hlt)]
    exact ⟨rfl, rfl⟩

/-- A route serves the stations on it, when it has two stops or more. -/
theorem Records.mem_servingIn_iff (hn : n.Records config h)
    (htwo : ∀ entry ∈ routesOf h, 2 ≤ entry.2.stops.length) (station route : String) :
    route ∈ servingIn h station ↔
      ((routeIn h route).bind fun entry => entry.2.stops.idxOf? station).isSome := by
  rw [mem_servingIn, Option.isSome_iff_exists]
  simp only [Neighbours.exists_iff, Option.bind_eq_some_iff, hn.routeIn_eq_some_iff]
  constructor
  · rintro ⟨entry, hentry, hid, hstation, -⟩
    obtain ⟨i, hi⟩ := Option.isSome_iff_exists.1 (List.isSome_idxOf?.2 hstation)
    exact ⟨i, entry, ⟨hentry, hid⟩, hi⟩
  · rintro ⟨i, entry, ⟨hentry, hid⟩, hi⟩
    exact ⟨entry, hentry, hid, List.isSome_idxOf?.1 (by rw [hi]; rfl), htwo entry hentry⟩

/-! ### Under strict rules -/

/-- Under strict rules, whatever the calls, the network keeps lines and routes of the right shape:
every line has a route, and every route, in the order of adding, has at least two stops, all
distinct, between the start and the terminus that were submitted. So of two stations on a route one
comes before the other, a station has one position on it, and the routes that serve a station are
those that stop there. -/
theorem session_shapes (inbound : InboundPolicy) (requests : List Request) :
    ∃ n h, session { config := ⟨inbound, true⟩ } requests = .ok n ∧
      accepted { config := ⟨inbound, true⟩ } requests = .ok h ∧
      (∀ line ∈ n.lines.toList, line.routes ≠ []) ∧
      List.Forall₂ n.ShapedAs n.routes.toList ((linesOf h).flatMap (·.routes)) ∧
      (∀ r ∈ (linesOf h).flatMap (·.routes),
        (∀ a ∈ r.stops, ∀ b ∈ r.stops, a ≠ b →
          (n.direction a b r.id = .ok .outbound ∧ n.direction b a r.id = .ok .inbound) ∨
            (n.direction a b r.id = .ok .inbound ∧ n.direction b a r.id = .ok .outbound)) ∧
        ∀ station i, n.stopPosition? station r.id = .ok (some i) ↔ r.stops[i]? = some station) ∧
      ∀ station route, ∃ ids position, n.routesServing station = .ok ids ∧
        n.stopPosition? station route = .ok position ∧ (route ∈ ids ↔ position.isSome) := by
  obtain ⟨n, h, hok, hh, hn⟩ := exists_contents ⟨inbound, true⟩ requests
  have hlines : ∀ l ∈ linesOf h, l.WellFormed := fun l hl =>
    Line.check_eq_ok_iff.1 (hn.well_formed rfl l hl).1
  have hroutes : ∀ entry ∈ routesOf h, entry.2.WellFormed := fun entry hentry => by
    obtain ⟨hl, hr⟩ := mem_routesOf.1 hentry
    exact Route.check_eq_ok_iff.1 ((hn.well_formed rfl entry.1 hl).2 entry.2 hr)
  refine ⟨n, h, hok, hh, ?_, ?_, ?_, ?_⟩
  · intro line hline hnone
    obtain ⟨l, hl, hkeeps⟩ := exists_of_forall₂ hn.lineTable hline
    have hids := hkeeps.routes
    rw [hnone, List.map_nil] at hids
    exact (hlines l hl).routes (List.map_eq_nil_iff.1 hids.symm)
  · rw [← map_routesOf, List.forall₂_map_right_iff]
    have hboth := (List.forall₂_and_left (p := fun entry => entry.2.WellFormed) _ _).2
      ⟨hroutes, hn.routes.flip⟩
    exact hboth.flip.imp fun x entry hx => hx.2.shapedAs hn.coherent.toRouted hx.1
  · intro r hr
    rw [← map_routesOf, List.mem_map] at hr
    obtain ⟨entry, hentry, rfl⟩ := hr
    refine ⟨fun a ha b hb hab => hn.direction_or hentry ha hb hab, fun station i => ?_⟩
    rw [hn.stopPosition?_added hentry, Except.ok.injEq,
      idxOf?_eq_some_iff_of_nodup (hroutes entry hentry).distinct]
  · intro station route
    exact ⟨_, _, hn.routesServing_eq station, hn.stopPosition?_eq station route,
      hn.mem_servingIn_iff (fun entry hentry => (hroutes entry hentry).two_le) station route⟩

end Network

end Transit
