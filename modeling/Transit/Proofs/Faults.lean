import Transit.Proofs.Lookups
import Transit.Proofs.Times

/-!
# The only fault

* `serve` never faults on a network that a session has made, and of the queries only the time along
  a route does.
* `routeTime_ok` and `routeTime_stopless`: it faults between two different ids along a route without
  stops of the line that was asked for (`Network.Stopless`), and nowhere else.
* `session_faults` puts this in terms of the accepted lines. Under strict rules there are no such
  routes, and nothing faults.
-/

namespace Transit

theorem Route.two_le_of_check {r : Route} (h : r.check = .ok ()) : 2 ≤ r.stops.length := by
  by_contra hlt
  rw [check, if_pos (by omega)] at h
  cases h

namespace Network

variable {n : Network} {config : Config} {h : List Call}

/-! ### Times along a route -/

/-- A route of the line has the id, and no stops. -/
def Stopless (n : Network) (line route : String) : Prop :=
  ∃ x ∈ n.routes.toList, x.id = route ∧ (n.lines[x.line.index]?).map (·.id) = some line ∧
    x.stops = []

/-- On a route with stops, a station is numbered within its bounds, even one that is not on it. -/
theorem stopNumberOn_lt {r : StoredRoute} (hr : r.stops ≠ []) (station : String) :
    n.stopNumberOn r station < r.stops.length := by
  have hpos : 0 < r.stops.length := List.length_pos_iff.2 hr
  unfold stopNumberOn
  cases hs : (n.station? station).bind r.position? with
  | none => exact hpos
  | some i =>
    obtain ⟨s, -, hi⟩ := Option.bind_eq_some_iff.1 hs
    exact (List.findIdx?_eq_some_iff_getElem.1 hi).1

theorem stopNumberOn_stopless {r : StoredRoute} (hr : r.stops = []) (station : String) :
    n.stopNumberOn r station = 0 := by
  unfold stopNumberOn
  cases n.station? station with
  | none => rfl
  | some s => simp [StoredRoute.position?, hr]

theorem spanTime_ok (hn : n.Coherent) {r : StoredRoute} (hr : r ∈ n.routes.toList) {i j : Nat}
    (hij : i ≤ j) (hj : j < r.stops.length) : ∃ t, n.spanTime r i j = .ok t := by
  have hguard : i ≤ j + 1 ∧ j < r.stops.length := ⟨by omega, hj⟩
  obtain ⟨times, htimes, -⟩ := Checked.mapM_ok (P := fun _ => True)
    (l := consecutive ((r.stops.take (j + 1)).drop i))
    (f := fun pair => n.segmentTime pair.1 pair.2) fun pair hpair => by
      have hstop : pair.1 ∈ r.stops :=
        List.mem_of_mem_take (List.mem_of_mem_drop (mem_of_mem_consecutive hpair).1)
      exact ⟨_, segmentTime_eq hn (hn.stops r hr _ hstop), trivial⟩
  refine ⟨times.foldl addTimes 0, ?_⟩
  rw [spanTime, if_pos hguard]
  simp only [htimes, Checked.ok_bind]
  rfl

/-- Along a route with stops, every time can be read. -/
theorem routeTime_ok (hn : n.Coherent) {line route a b : String}
    (h : a = b ∨ ¬ n.Stopless line route) : ∃ t, n.routeTime line route a b = .ok t := by
  unfold routeTime
  by_cases hab : a = b
  · exact ⟨0, if_pos hab⟩
  · rw [if_neg hab]
    obtain ⟨found, hfound, hiff⟩ := routeOnLine?_ok hn line route
    rw [hfound, Checked.ok_bind]
    cases found with
    | none => exact ⟨0, rfl⟩
    | some r =>
      obtain ⟨hr, hid, hline⟩ := (hiff r).1 rfl
      have hstops : r.stops ≠ [] := fun he => h.elim hab fun hs => hs ⟨r, hr, hid, hline, he⟩
      have hi := stopNumberOn_lt (n := n) hstops a
      have hj := stopNumberOn_lt (n := n) hstops b
      simp only [Direction.between]
      by_cases hij : n.stopNumberOn r a ≤ n.stopNumberOn r b
      · rw [if_pos hij]
        exact spanTime_ok hn hr hij hj
      · rw [if_neg hij]
        cases n.config.inbound with
        | zero => exact ⟨0, rfl⟩
        | reverseSum => exact spanTime_ok hn hr (by omega) hi

/-- Along a route without stops, the first stop is out of range. -/
theorem routeTime_stopless (hn : n.Coherent) {line route a b : String} (hab : a ≠ b)
    (h : n.Stopless line route) : n.routeTime line route a b = .error (.noSpan 0 0 0) := by
  obtain ⟨x, hx, hid, hline, hstops⟩ := h
  obtain ⟨found, hfound, hiff⟩ := routeOnLine?_ok hn line route
  obtain rfl := (hiff x).2 ⟨hx, hid, hline⟩
  unfold routeTime
  rw [if_neg hab, hfound, Checked.ok_bind]
  simp only [stopNumberOn_stopless hstops, Direction.between, Nat.le_refl, if_true, spanTime, hstops]
  rfl

/-- A query faults on a coherent network only where it asks for a time along a route without
stops. -/
theorem ask_eq_error_iff (hn : n.Coherent) {q : Query} {f : Fault} :
    n.ask q = .error f ↔ f = .noSpan 0 0 0 ∧
      ∃ line route a b, q = .routeTime line route a b ∧ a ≠ b ∧ n.Stopless line route := by
  have hok : ∀ {q}, (∃ answer, n.ask q = .ok answer) →
      (∀ line route a b, q = .routeTime line route a b → a = b ∨ ¬ n.Stopless line route) →
      (n.ask q = .error f ↔ f = .noSpan 0 0 0 ∧
        ∃ line route a b, q = .routeTime line route a b ∧ a ≠ b ∧ n.Stopless line route) := by
    rintro q ⟨answer, hanswer⟩ hq
    refine iff_of_false (by rw [hanswer]; exact nofun) ?_
    rintro ⟨-, line, route, a, b, he, hab, hs⟩
    exact (hq line route a b he).elim hab fun h => h hs
  cases q with
  | config => exact hok ⟨_, rfl⟩ nofun
  | hasStation id => exact hok ⟨_, rfl⟩ nofun
  | hasLine id => exact hok ⟨_, rfl⟩ nofun
  | hasRoute id => exact hok ⟨_, rfl⟩ nofun
  | stationIds => exact hok ⟨_, rfl⟩ nofun
  | statistics => exact hok ⟨_, rfl⟩ nofun
  | stationName id =>
    obtain ⟨t, ht⟩ := stationName?_ok hn id
    exact hok ⟨.text t, by rw [ask, ht]; rfl⟩ nofun
  | lineName id =>
    obtain ⟨t, ht⟩ := lineName?_ok hn id
    exact hok ⟨.text t, by rw [ask, ht]; rfl⟩ nofun
  | routeDirection id =>
    obtain ⟨t, ht⟩ := routeDirection?_ok hn id
    exact hok ⟨.text t, by rw [ask, ht]; rfl⟩ nofun
  | routesOfLine id =>
    obtain ⟨ts, hts⟩ := routesOfLine_ok hn id
    exact hok ⟨.texts ts, by rw [ask, hts]; rfl⟩ nofun
  | routesServing station =>
    obtain ⟨ts, hts⟩ := routesServing_ok hn station
    exact hok ⟨.texts ts, by rw [ask, hts]; rfl⟩ nofun
  | stopPosition station route =>
    obtain ⟨p, hp⟩ := stopPosition?_ok hn station route
    exact hok ⟨.position p, by rw [ask, hp]; rfl⟩ nofun
  | stopNumber station route =>
    obtain ⟨i, hi⟩ := stopNumber_ok hn station route
    exact hok ⟨.number i, by rw [ask, hi]; rfl⟩ nofun
  | direction a b route =>
    obtain ⟨d, hd⟩ := direction_ok hn a b route
    exact hok ⟨.direction d, by rw [ask, hd]; rfl⟩ nofun
  | travelTime a b => exact hok ⟨.time _, by rw [ask, travelTime_eq hn]; rfl⟩ nofun
  | passengerCount station =>
    obtain ⟨c, hc⟩ := passengerCount_ok hn station
    exact hok ⟨.count c, by rw [ask, hc]; rfl⟩ nofun
  | routeTime line route a b =>
    by_cases h : a = b ∨ ¬ n.Stopless line route
    · obtain ⟨t, ht⟩ := routeTime_ok hn h
      refine hok ⟨.time t, by rw [ask, ht]; rfl⟩ ?_
      rintro line' route' a' b' ⟨⟩
      exact h
    · rw [not_or, not_not] at h
      rw [ask, routeTime_stopless hn h.1 h.2, Checked.error_bind, Except.error.injEq]
      constructor
      · rintro rfl
        exact ⟨rfl, line, route, a, b, rfl, h⟩
      · rintro ⟨rfl, -⟩
        rfl

/-! ### Over a session -/

/-- A route of the line has no stops exactly when it was added without any. -/
theorem Records.stopless_iff (hn : n.Records config h) {line route : String} :
    n.Stopless line route ↔
      ∃ l ∈ linesOf h, l.id = line ∧ ∃ r ∈ l.routes, r.id = route ∧ r.stops = [] := by
  have hempty : ∀ {x : StoredRoute} {entry : Line × Route}, n.Stores x entry →
      (x.stops = [] ↔ entry.2.stops = []) := by
    intro x entry hx
    rw [← List.map_eq_nil_iff, hx.stops, List.map_eq_nil_iff]
  constructor
  · rintro ⟨x, hx, rfl, hline, hstops⟩
    obtain ⟨⟨l, r⟩, hentry, hstores⟩ := hn.exists_added hx
    obtain ⟨hl, hr⟩ := mem_routesOf.1 hentry
    refine ⟨l, hl, ?_, r, hr, hstores.id.symm, (hempty hstores).1 hstops⟩
    exact Option.some.inj (hstores.line.symm.trans hline)
  · rintro ⟨l, hl, rfl, r, hr, rfl, hstops⟩
    obtain ⟨x, hx, hstores⟩ := hn.exists_stored (mem_routesOf.2 ⟨hl, hr⟩)
    exact ⟨x, hx, hstores.id, hstores.line, (hempty hstores).2 hstops⟩

/-- No session faults, and after it no request does. A query does only when it asks for the time
between two different ids along a route that was added without stops, on its own line; under strict
rules, never. -/
theorem session_faults (config : Config) (requests : List Request) :
    ∃ n h, session { config := config } requests = .ok n ∧
      accepted { config := config } requests = .ok h ∧
      (∀ r, ∃ o, n.serve r = .ok o) ∧
      (∀ q f, n.ask q = .error f ↔ f = .noSpan 0 0 0 ∧
        ∃ line route a b, q = .routeTime line route a b ∧ a ≠ b ∧
          ∃ l ∈ linesOf h, l.id = line ∧ ∃ r ∈ l.routes, r.id = route ∧ r.stops = []) ∧
      (config.strictRoutes = true → ∀ q, ∃ answer, n.ask q = .ok answer) := by
  obtain ⟨n, h, hok, hh, hn⟩ := exists_session config requests
  have hask : ∀ q f, n.ask q = .error f ↔ f = .noSpan 0 0 0 ∧
      ∃ line route a b, q = .routeTime line route a b ∧ a ≠ b ∧
        ∃ l ∈ linesOf h, l.id = line ∧ ∃ r ∈ l.routes, r.id = route ∧ r.stops = [] := by
    intro q f
    rw [ask_eq_error_iff hn.coherent]
    simp only [hn.stopless_iff]
  refine ⟨n, h, hok, hh, ?_, hask, ?_⟩
  · intro r
    obtain ⟨o, -, ho, -⟩ := hn.serve r
    exact ⟨o, ho⟩
  · intro hs q
    cases hq : n.ask q with
    | ok answer => exact ⟨answer, rfl⟩
    | error f =>
      obtain ⟨-, line, route, a, b, -, -, l, hl, -, r, hr, -, hstops⟩ := (hask q f).1 hq
      have htwo := Route.two_le_of_check ((hn.well_formed hs l hl).2 r hr)
      rw [hstops] at htwo
      exact absurd htwo (by decide)

end Network

end Transit
