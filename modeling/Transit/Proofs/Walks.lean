import Mathlib.Algebra.BigOperators.Intervals
import Transit.Proofs.Answers

/-!
# Walking along a route

A client who walks along a route and asks for the time from every stop to the next one finds out
what the network tells for the whole way.

* `walk time stops i j`: the times from the stop at `i` to the one at `j`, added up without bound.
* `toNat_spanIn`: the network adds them up too, and clamps the sum only once in effect.
* `routeTimeIn_outbound` and `routeTimeIn_inbound`: the time along a route, with the order of the
  stops and against it. `toNat_routeTimeIn` speaks of both where the time is a sum, and
  `routeTimeIn_uncounted` of where it is not.
* `session_routeTime`: what is told along a route, from the answers about pairs of stations.
-/

namespace Transit

/-! ### Clamped sums -/

/-- Clamping after every addition is clamping once at the end. -/
theorem toNat_foldl_addTimes (ts : List UInt32) (t : UInt32) :
    (ts.foldl addTimes t).toNat = min (t.toNat + (ts.map UInt32.toNat).sum) 4294967295 := by
  induction ts generalizing t with
  | nil =>
    have ht := t.toNat_lt
    simp only [List.foldl_nil, List.map_nil, List.sum_nil]
    omega
  | cons s ts ih =>
    rw [List.foldl_cons, ih, toNat_addTimes, List.map_cons, List.sum_cons]
    omega

/-- A sum over pairs of neighbours is a sum over positions. -/
theorem sum_map_consecutive {α : Type} (g : α → α → Nat) (d : α) (as : List α) :
    ((consecutive as).map fun p => g p.1 p.2).sum =
      ∑ k ∈ Finset.range (as.length - 1), g (as.getD k d) (as.getD (k + 1) d) := by
  fun_induction consecutive as with
  | case1 a b rest ih =>
    simp only [List.map_cons, List.sum_cons, List.length_cons, Nat.add_sub_cancel] at ih ⊢
    rw [ih, Finset.sum_range_succ']
    simp only [List.getD_cons_succ, List.getD_cons_zero]
    exact Nat.add_comm _ _
  | case2 as h =>
    cases as with
    | nil => rfl
    | cons a as =>
      cases as with
      | nil => rfl
      | cons b rest => exact absurd rfl (h a b rest)

/-- The times from the stop at position `i` to the one at `j`, from every stop to the next one,
added up without bound. -/
def walk (time : String → String → UInt32) (stops : List String) (i j : Nat) : Nat :=
  ∑ k ∈ Finset.Ico i j, (time (stops.getD k "") (stops.getD (k + 1) "")).toNat

theorem walk_self (time : String → String → UInt32) (stops : List String) (i : Nat) :
    walk time stops i i = 0 := by
  rw [walk, Finset.Ico_self, Finset.sum_empty]

/-- The stops of a span are those of the route from its first position on. -/
theorem sum_span_eq_walk (time : String → String → UInt32) {stops : List String} {i j : Nat}
    (hij : i ≤ j) (hj : j < stops.length) :
    ((consecutive ((stops.take (j + 1)).drop i)).map fun p => (time p.1 p.2).toNat).sum =
      walk time stops i j := by
  have hlength : ((stops.take (j + 1)).drop i).length - 1 = j - i := by
    rw [List.length_drop, List.length_take]
    omega
  have hstop : ∀ k, i + k ≤ j →
      ((stops.take (j + 1)).drop i).getD k "" = stops.getD (i + k) "" := by
    intro k hk
    rw [List.getD_eq_getElem?_getD, List.getD_eq_getElem?_getD, List.getElem?_drop,
      List.getElem?_take_of_lt (by omega)]
  rw [sum_map_consecutive (fun a b => (time a b).toNat) "", walk, Finset.sum_Ico_eq_sum_range,
    hlength]
  refine Finset.sum_congr rfl fun k hk => ?_
  rw [Finset.mem_range] at hk
  rw [hstop k (by omega), hstop (k + 1) (by omega), Nat.add_assoc]

/-! ### Times along a route -/

section Spans

variable {h : List Call} {stops : List String} {i j : Nat}

theorem spanIn_nil (h : List Call) : spanIn h [] 0 0 = .error (.noSpan 0 0 0) := rfl

/-- From a stop to a later one there is a time, and it is the clamped sum of the times of a walk. -/
theorem toNat_spanIn (h : List Call) (hij : i ≤ j) (hj : j < stops.length) :
    ∃ t, spanIn h stops i j = .ok t ∧ t.toNat = min (walk (timeIn h) stops i j) 4294967295 := by
  refine ⟨_, if_pos ⟨Nat.le_succ_of_le hij, hj⟩, ?_⟩
  rw [toNat_foldl_addTimes, List.map_map, ← sum_span_eq_walk _ hij hj]
  exact congrArg (min · 4294967295) (Nat.zero_add _)

/-- There is nothing to pass from a stop to itself. -/
theorem spanIn_self (hi : i < stops.length) : spanIn h stops i i = .ok 0 := by
  obtain ⟨t, ht, hwalk⟩ := toNat_spanIn h (Nat.le_refl i) hi
  rw [walk_self, Nat.zero_min] at hwalk
  rw [ht, UInt32.toNat_inj.1 (hwalk.trans UInt32.toNat_zero.symm)]

end Spans

section RouteTimes

variable {h : List Call} {line route a b : String} {l : Line} {r : Route}

theorem routeTimeIn_self (config : Config) (h : List Call) (line route a : String) :
    routeTimeIn config h line route a a = .ok 0 :=
  if_pos rfl

theorem routeTimeIn_of_no_route (hr : (routeIn h route).filter (·.1.id = line) = none)
    (config : Config) (a b : String) : routeTimeIn config h line route a b = .ok 0 := by
  rw [routeTimeIn, hr]
  exact ite_self _

/-- With the order of the stops, the policy does not count. -/
theorem routeTimeIn_outbound (hab : a ≠ b)
    (hr : (routeIn h route).filter (·.1.id = line) = some (l, r))
    (hle : placeAmong r.stops a ≤ placeAmong r.stops b) (config : Config) :
    routeTimeIn config h line route a b =
      spanIn h r.stops (placeAmong r.stops a) (placeAmong r.stops b) := by
  rw [routeTimeIn, if_neg hab, hr]
  simp only [Direction.between, if_pos hle]

/-- No time is found along a route without stops, where every station counts as the first stop. -/
theorem routeTimeIn_of_no_stops (hab : a ≠ b)
    (hr : (routeIn h route).filter (·.1.id = line) = some (l, r)) (hstops : r.stops = [])
    (config : Config) : routeTimeIn config h line route a b = .error (.noSpan 0 0 0) := by
  have hplace : ∀ station, placeAmong r.stops station = 0 := fun station =>
    placeAmong_eq_zero (by rw [hstops]; exact List.not_mem_nil)
  rw [routeTimeIn_outbound hab hr (hplace a ▸ Nat.zero_le _), hplace, hplace, hstops, spanIn_nil]

/-- Against the order of the stops, there is no time or the time back. -/
theorem routeTimeIn_inbound (hab : a ≠ b)
    (hr : (routeIn h route).filter (·.1.id = line) = some (l, r))
    (hlt : placeAmong r.stops b < placeAmong r.stops a) (config : Config) :
    routeTimeIn config h line route a b = match config.inbound with
      | .zero => .ok 0
      | .reverseSum => spanIn h r.stops (placeAmong r.stops b) (placeAmong r.stops a) := by
  rw [routeTimeIn, if_neg hab, hr]
  simp only [Direction.between, if_neg (Nat.not_le.2 hlt)]
  cases config.inbound <;> rfl

/-- Unless it is asked for against the order of the stops and the policy gives none, the time along
a route is the clamped sum of the times of a walk from the stop that comes first to the other. -/
theorem toNat_routeTimeIn (hr : (routeIn h route).filter (·.1.id = line) = some (l, r))
    (hstops : r.stops ≠ []) {i j : Nat} (ha : placeAmong r.stops a = i)
    (hb : placeAmong r.stops b = j) {config : Config}
    (hsum : i ≤ j ∨ config.inbound = .reverseSum) :
    ∃ t, routeTimeIn config h line route a b = .ok t ∧
      t.toNat = min (walk (timeIn h) r.stops (min i j) (max i j)) 4294967295 := by
  subst ha hb
  by_cases hab : a = b
  · subst hab
    refine ⟨0, routeTimeIn_self config h line route a, ?_⟩
    rw [Nat.min_self, Nat.max_self, walk_self]
    rfl
  rcases Nat.lt_or_ge (placeAmong r.stops b) (placeAmong r.stops a) with hlt | hle
  · have hback := hsum.resolve_left (Nat.not_le.2 hlt)
    rw [routeTimeIn_inbound hab hr hlt, hback, Nat.min_eq_right (Nat.le_of_lt hlt),
      Nat.max_eq_left (Nat.le_of_lt hlt)]
    exact toNat_spanIn h (Nat.le_of_lt hlt) (placeAmong_lt hstops)
  · rw [routeTimeIn_outbound hab hr hle, Nat.min_eq_left hle, Nat.max_eq_right hle]
    exact toNat_spanIn h hle (placeAmong_lt hstops)

/-- Otherwise there is no time. -/
theorem routeTimeIn_uncounted (hr : (routeIn h route).filter (·.1.id = line) = some (l, r))
    {config : Config}
    (hnone : ¬ (placeAmong r.stops a ≤ placeAmong r.stops b ∨ config.inbound = .reverseSum)) :
    routeTimeIn config h line route a b = .ok 0 := by
  obtain ⟨hle, hback⟩ := not_or.1 hnone
  have hlt := Nat.not_le.1 hle
  have hab : a ≠ b := by
    rintro rfl
    exact Nat.lt_irrefl _ hlt
  rw [routeTimeIn_inbound hab hr hlt]
  cases hpolicy : config.inbound with
  | zero => rfl
  | reverseSum => exact absurd hpolicy hback

end RouteTimes

namespace Network

variable {n : Network} {config : Config} {h : List Call} {line route : String} {l : Line}
  {r : Route}

/-- A route is found on a line when the line was added with it. -/
theorem Records.routeOn_eq_some_iff (hn : n.Records config h) :
    (routeIn h route).filter (·.1.id = line) = some (l, r) ↔
      (l ∈ linesOf h ∧ r ∈ l.routes) ∧ r.id = route ∧ l.id = line := by
  rw [Option.filter_eq_some_iff, hn.routeIn_eq_some_iff, mem_routesOf, decide_eq_true_eq, and_assoc]

/-- A line lists the routes that it was added with. -/
theorem Holds.mem_routesOfLine (hn : n.Holds config h) (line : String) :
    ∃ ids, n.routesOfLine line = .ok ids ∧ ∀ route,
      route ∈ ids ↔ ∃ l ∈ linesOf h, l.id = line ∧ ∃ r ∈ l.routes, r.id = route := by
  refine ⟨_, hn.routesOfLine_eq line, fun route => ?_⟩
  have hline : ∀ l, lineIn h line = some l ↔ l ∈ linesOf h ∧ l.id = line := fun l =>
    find?_eq_some_iff_of_nodup (hn.lines ▸ hn.coherent.lineHandles.nodup)
  cases hl : lineIn h line with
  | none =>
    refine iff_of_false List.not_mem_nil ?_
    rintro ⟨l, hm, hid, -⟩
    exact nomatch hl.symm.trans ((hline l).2 ⟨hm, hid⟩)
  | some l =>
    rw [Option.map_some, Option.getD_some, List.mem_map]
    constructor
    · intro hr
      exact ⟨l, ((hline l).1 hl).1, ((hline l).1 hl).2, hr⟩
    · rintro ⟨l', hm, hid, hr⟩
      obtain rfl : l = l' := Option.some.inj (hl.symm.trans ((hline l').2 ⟨hm, hid⟩))
      exact hr

/-- Whatever the calls before, the time along a route follows from the times between neighbours that
the network tells. It is zero from an id to itself, and along a route that the line does not list.
Along a route with stops `i` and `j` are the places of the two stations, zero for one that is not on
it. With the order of the stops, the answer is the sum of a walk from `i` to `j`, clamped to the
largest time; against it, zero or the clamped sum of the walk from `j` to `i`, as the policy has it;
and the direction that is told is the one that is taken. -/
theorem session_routeTime (config : Config) (requests : List Request) :
    ∃ n h time, session { config := config } requests = .ok n ∧
      accepted { config := config } requests = .ok h ∧
      (∀ a b, n.travelTime a b = .ok (time a b)) ∧
      (∀ line, ∃ ids, n.routesOfLine line = .ok ids ∧
        (∀ route, route ∈ ids ↔ ∃ l ∈ linesOf h, l.id = line ∧ ∃ r ∈ l.routes, r.id = route) ∧
        ∀ route a b, a = b ∨ route ∉ ids → n.routeTime line route a b = .ok 0) ∧
      ∀ l ∈ linesOf h, ∀ r ∈ l.routes, r.stops ≠ [] → ∀ a b, a ≠ b →
        let i := placeAmong r.stops a
        let j := placeAmong r.stops b
        ∃ t, n.routeTime l.id r.id a b = .ok t ∧
          (i ≤ j → n.direction a b r.id = .ok .outbound ∧
            t.toNat = min (walk time r.stops i j) 4294967295) ∧
          (j < i → n.direction a b r.id = .ok .inbound ∧
            match config.inbound with
            | .zero => t = 0
            | .reverseSum => t.toNat = min (walk time r.stops j i) 4294967295) := by
  obtain ⟨n, h, hok, hh, hn⟩ := exists_contents config requests
  refine ⟨n, h, timeIn h, hok, hh, hn.travelTime_eq, fun line => ?_, ?_⟩
  · obtain ⟨ids, hids, hmem⟩ := hn.mem_routesOfLine line
    refine ⟨ids, hids, hmem, fun route a b hab => ?_⟩
    rw [hn.routeTime_eq]
    rcases hab with rfl | hroute
    · exact routeTimeIn_self config h line route a
    · refine routeTimeIn_of_no_route (Option.eq_none_iff_forall_ne_some.2 ?_) config a b
      rintro ⟨l, r⟩ hr
      obtain ⟨⟨hl, hr⟩, hid, hline⟩ := hn.routeOn_eq_some_iff.1 hr
      exact hroute ((hmem route).2 ⟨l, hl, hline, r, hr, hid⟩)
  · intro l hl r hr hstops a b hab i j
    have hentry : (routeIn h r.id).filter (·.1.id = l.id) = some (l, r) :=
      hn.routeOn_eq_some_iff.2 ⟨⟨hl, hr⟩, rfl, rfl⟩
    have hdirection : n.direction a b r.id = .ok (.between i j) :=
      hn.direction_added (mem_routesOf.2 ⟨hl, hr⟩) a b
    rw [hn.routeTime_eq, hdirection]
    rcases Nat.lt_or_ge j i with hlt | hle
    · have hbetween : Direction.between i j = .inbound := if_neg (Nat.not_le.2 hlt)
      rw [routeTimeIn_inbound hab hentry hlt, hbetween]
      cases config.inbound with
      | zero => exact ⟨0, rfl, fun hle => absurd hlt (Nat.not_lt.2 hle), fun _ => ⟨rfl, rfl⟩⟩
      | reverseSum =>
        obtain ⟨t, ht, hwalk⟩ := toNat_spanIn h (Nat.le_of_lt hlt) (placeAmong_lt hstops)
        exact ⟨t, ht, fun hle => absurd hlt (Nat.not_lt.2 hle), fun _ => ⟨rfl, hwalk⟩⟩
    · have hbetween : Direction.between i j = .outbound := if_pos hle
      obtain ⟨t, ht, hwalk⟩ := toNat_spanIn h hle (placeAmong_lt hstops)
      rw [routeTimeIn_outbound hab hentry hle, hbetween]
      exact ⟨t, ht, fun _ => ⟨rfl, hwalk⟩, fun hlt => absurd hlt (Nat.not_lt.2 hle)⟩

end Network

/-! ### There and back -/

/-- A line from `a` over `b` to `c`, and one back. The two times that are set, one of them along the
first line and one along the second, pass the largest time together. -/
def thereAndBack : List Request := [
  .load ⟨[⟨"a", "A"⟩, ⟨"b", "B"⟩, ⟨"c", "C"⟩],
    [⟨"l", "There", [.along "r" "outbound" "l" ["a", "b", "c"]]⟩,
      ⟨"m", "Back", [.along "s" "inbound" "m" ["c", "b", "a"]]⟩],
    [⟨"a", "b", 4294967295⟩, ⟨"c", "b", 7⟩]⟩]

end Transit
