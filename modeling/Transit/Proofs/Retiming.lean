import Transit.Proofs.Walks

/-!
# What a new travel time changes along routes

A time that is set between two neighbours counts on every route that takes the step between them,
whichever line the route is on and whichever way it takes the step, and on no other.

* `retimed time x y t`: the times with `t` between `x` and `y`. `timeIn_setTravelTime` says that
  they are the times of the longer history.
* `Passes x y stops i j`: between two positions the stops take the step between `x` and `y`.
* `session_retimed`: the time along a route after a time is set, where the way takes that step and
  where it does not.
-/

namespace Transit

/-- The times with `t` between two stations, in either order. -/
def retimed (time : String → String → UInt32) (x y : String) (t : UInt32) (a b : String) : UInt32 :=
  if (a = x ∧ b = y) ∨ (a = y ∧ b = x) then t else time a b

/-- Between the positions `i` and `j`, the two stations are neighbours and are not the same. -/
def Passes (x y : String) (stops : List String) (i j : Nat) : Prop :=
  x ≠ y ∧ Neighbours x y ((stops.take (j + 1)).drop i)

instance (x y : String) (stops : List String) (i j : Nat) : Decidable (Passes x y stops i j) :=
  inferInstanceAs (Decidable (_ ∧ _))

/-- The step from `b` to `c` is taken back, but not before the stop at position 2. -/
example : Passes "b" "c" ["a", "c", "c", "b"] 0 3 ∧ ¬ Passes "b" "c" ["a", "c", "c", "b"] 0 2 ∧
    ¬ Passes "c" "c" ["a", "c", "c", "b"] 0 3 := by
  decide

section Times

variable {h : List Call} {x y a b : String} {t : UInt32}

theorem timeIn_self (h : List Call) (a : String) : timeIn h a a = 0 := if_pos rfl

/-- Between different stations, the new time counts where it was set, and nowhere else. -/
theorem timeIn_setTravelTime (hab : a ≠ b) :
    timeIn (h ++ [.setTravelTime x y t]) a b = retimed (timeIn h) x y t a b := by
  have hlast : lastTime [.setTravelTime x y t] a b =
      if (a = x ∧ b = y) ∨ (a = y ∧ b = x) then some t else none := by
    by_cases hpair : (a = x ∧ b = y) ∨ (a = y ∧ b = x)
    · have hset : (x = a ∧ y = b) ∨ (x = b ∧ y = a) := by tauto
      simp [lastTime, timesOf, hpair, hset]
    · have hset : ¬ ((x = a ∧ y = b) ∨ (x = b ∧ y = a)) := by tauto
      simp [lastTime, timesOf, hpair, hset]
  rw [timeIn, if_neg hab, lastTime_append, hlast, retimed, timeIn, if_neg hab]
  by_cases hpair : (a = x ∧ b = y) ∨ (a = y ∧ b = x)
  · rw [if_pos hpair, if_pos hpair]
    rfl
  · rw [if_neg hpair, if_neg hpair]
    rfl

/-- A time between two different stations leaves none from a station to itself. -/
theorem timeIn_setTravelTime_of_ne (hxy : x ≠ y) :
    timeIn (h ++ [.setTravelTime x y t]) = retimed (timeIn h) x y t := by
  funext a b
  by_cases hab : a = b
  · subst hab
    have hpair : ¬ ((a = x ∧ a = y) ∨ (a = y ∧ a = x)) := by
      rintro (⟨rfl, rfl⟩ | ⟨rfl, rfl⟩) <;> exact hxy rfl
    rw [retimed, if_neg hpair, timeIn_self, timeIn_self]
  · exact timeIn_setTravelTime hab

/-- Times that agree from every stop to the next one add up to the same. -/
theorem walk_congr {time time' : String → String → UInt32} {stops : List String} {i j : Nat}
    (hij : i ≤ j) (hj : j < stops.length)
    (htime : ∀ p ∈ consecutive ((stops.take (j + 1)).drop i), time p.1 p.2 = time' p.1 p.2) :
    walk time stops i j = walk time' stops i j := by
  rw [← sum_span_eq_walk time hij hj, ← sum_span_eq_walk time' hij hj]
  refine congrArg List.sum (List.map_congr_left fun p hp => ?_)
  rw [htime p hp]

/-- A walk that does not take the step takes as long as before. -/
theorem walk_setTravelTime_of_not_passes {stops : List String} {i j : Nat} (hij : i ≤ j)
    (hj : j < stops.length) (hpass : ¬ Passes x y stops i j) :
    walk (timeIn (h ++ [.setTravelTime x y t])) stops i j = walk (timeIn h) stops i j := by
  refine walk_congr hij hj ?_
  rintro ⟨a, b⟩ hp
  by_cases hab : a = b
  · subst hab
    rw [timeIn_self, timeIn_self]
  · rw [timeIn_setTravelTime hab, retimed, if_neg]
    rintro (⟨rfl, rfl⟩ | ⟨rfl, rfl⟩)
    · exact hpass ⟨hab, .inl hp⟩
    · exact hpass ⟨Ne.symm hab, .inr hp⟩

theorem routeIn_setTravelTime (route : String) :
    routeIn (h ++ [.setTravelTime x y t]) route = routeIn h route := by
  rw [routeIn, routesOf_append_setTravelTime, routeIn]

end Times

/-! ### Along a route -/

section RouteTimes

variable {config : Config} {h : List Call} {x y line route a b : String} {t : UInt32} {l : Line}
  {r : Route} {i j : Nat}

/-- Along a route that does not take the step between two places, a time for the step changes
nothing between these. -/
theorem routeTimeIn_setTravelTime_of_not_passes
    (hr : (routeIn h route).filter (·.1.id = line) = some (l, r)) (hstops : r.stops ≠ [])
    (ha : placeAmong r.stops a = i) (hb : placeAmong r.stops b = j)
    (hpass : ¬ Passes x y r.stops (min i j) (max i j)) :
    ∃ s, routeTimeIn config h line route a b = .ok s ∧
      routeTimeIn config (h ++ [.setTravelTime x y t]) line route a b = .ok s := by
  have hr' := hr
  rw [← routeIn_setTravelTime (x := x) (y := y) (t := t)] at hr'
  by_cases hsum : i ≤ j ∨ config.inbound = .reverseSum
  · obtain ⟨s, hs, hwalk⟩ := toNat_routeTimeIn hr hstops ha hb hsum
    obtain ⟨s', hs', hwalk'⟩ := toNat_routeTimeIn hr' hstops ha hb hsum
    have hle : min i j ≤ max i j := Nat.le_trans (Nat.min_le_left i j) (Nat.le_max_left i j)
    have hlt : max i j < r.stops.length :=
      Nat.max_lt.2 ⟨ha ▸ placeAmong_lt hstops, hb ▸ placeAmong_lt hstops⟩
    rw [walk_setTravelTime_of_not_passes hle hlt hpass, ← hwalk] at hwalk'
    exact ⟨s, hs, UInt32.toNat_inj.1 hwalk' ▸ hs'⟩
  · rw [← ha, ← hb] at hsum
    exact ⟨0, routeTimeIn_uncounted hr hsum, routeTimeIn_uncounted hr' hsum⟩

/-- Along a route that takes it, the new time counts as often as it does. -/
theorem toNat_routeTimeIn_setTravelTime (hxy : x ≠ y)
    (hr : (routeIn h route).filter (·.1.id = line) = some (l, r)) (hstops : r.stops ≠ [])
    (ha : placeAmong r.stops a = i) (hb : placeAmong r.stops b = j)
    (hsum : i ≤ j ∨ config.inbound = .reverseSum) :
    ∃ s, routeTimeIn config (h ++ [.setTravelTime x y t]) line route a b = .ok s ∧
      s.toNat = min (walk (retimed (timeIn h) x y t) r.stops (min i j) (max i j)) 4294967295 := by
  rw [← timeIn_setTravelTime_of_ne hxy]
  rw [← routeIn_setTravelTime (x := x) (y := y) (t := t)] at hr
  exact toNat_routeTimeIn hr hstops ha hb hsum

end RouteTimes

namespace Network

/-- Whatever the calls before, a time that is set between two stations changes the times along
routes as it should. Let `i` and `j` be the places of two stations on a route with stops, of any
line, as the time along it takes them. When the route does not take the step between the two
stations from the one place to the other, in either direction, the time is what it was. When it does,
and the time is a sum, it is the clamped sum of the walk on which that step takes the new time,
whichever way and however often it is taken, and every other step takes the time that it took. -/
theorem session_retimed (config : Config) (requests : List Request) :
    ∃ n h time, session { config := config } requests = .ok n ∧
      accepted { config := config } requests = .ok h ∧
      (∀ a b, n.travelTime a b = .ok (time a b)) ∧
      ∀ x y t n', n.setTravelTime x y t = .ok ⟨.ok (), n'⟩ →
        ∀ l ∈ linesOf h, ∀ r ∈ l.routes, r.stops ≠ [] → ∀ a b,
          let i := placeAmong r.stops a
          let j := placeAmong r.stops b
          (¬ Passes x y r.stops (min i j) (max i j) → ∃ s,
            n.routeTime l.id r.id a b = .ok s ∧ n'.routeTime l.id r.id a b = .ok s) ∧
          (Passes x y r.stops (min i j) (max i j) → i ≤ j ∨ config.inbound = .reverseSum → ∃ s,
            n'.routeTime l.id r.id a b = .ok s ∧
            s.toNat = min (walk (retimed time x y t) r.stops (min i j) (max i j)) 4294967295) := by
  obtain ⟨n, h, hok, hh, hn⟩ := exists_session config requests
  refine ⟨n, h, timeIn h, hok, hh, hn.travelTime_eq, ?_⟩
  intro x y t n' hset l hl r hr hstops a b i j
  have hn' : n'.Records config (h ++ [.setTravelTime x y t]) :=
    hn.effect (effect_of_apply (c := .setTravelTime x y t) hn.coherent hset)
  have hentry : (routeIn h r.id).filter (·.1.id = l.id) = some (l, r) :=
    hn.routeOn_eq_some_iff.2 ⟨⟨hl, hr⟩, rfl, rfl⟩
  rw [hn.routeTime_eq, hn'.routeTime_eq]
  constructor
  · intro hpass
    exact routeTimeIn_setTravelTime_of_not_passes hentry hstops rfl rfl hpass
  · intro hpass hsum
    exact toNat_routeTimeIn_setTravelTime hpass.1 hentry hstops rfl rfl hsum

end Network

end Transit
