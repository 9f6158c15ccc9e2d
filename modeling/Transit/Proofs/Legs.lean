import Transit.Proofs.Walks

/-!
# Legs of a journey, and the way back

A journey along a route can be broken at a stop on the way, and it can be made back on a route that
has the same stops in reverse order.

* `walk_add_walk` and `walk_reverse`: what the one and the other do to the times of a walk.
* `AddsUp time a b c`: the journey from `a` to `c` takes as long as its two legs at `b`, up to the
  largest time.
* `session_legs`: so it is on every route, with the order of the stops and, where the policy counts
  the way back, against it.
* `session_wayBack`: a route and its reverse agree on positions, directions and times.
-/

namespace Transit

/-! ### Walks -/

section Walks

variable {time : String → String → UInt32} {stops : List String} {i j k : Nat}

/-- A walk may be broken at a stop on the way. -/
theorem walk_add_walk (time : String → String → UInt32) (stops : List String) (hij : i ≤ j)
    (hjk : j ≤ k) : walk time stops i j + walk time stops j k = walk time stops i k :=
  Finset.sum_Ico_consecutive _ hij hjk

/-- Along the stops in reverse order, the way back takes as long as the way there. -/
theorem walk_reverse (hcomm : ∀ a b, time a b = time b a) (hij : i ≤ j) (hj : j < stops.length) :
    walk time stops.reverse (stops.length - 1 - j) (stops.length - 1 - i) =
      walk time stops i j := by
  have hstop : ∀ k, k < stops.length →
      stops.reverse.getD k "" = stops.getD (stops.length - 1 - k) "" := by
    intro k hk
    rw [List.getD_eq_getElem?_getD, List.getD_eq_getElem?_getD, List.getElem?_reverse hk]
  rcases Nat.eq_or_lt_of_le hij with rfl | hlt
  · rw [walk_self, walk_self]
  -- the step at `k` is made back at `stops.length - 2 - k`
  have hends : stops.length - 1 - j = stops.length - 2 + 1 - j ∧
      stops.length - 1 - i = stops.length - 2 + 1 - i := by omega
  rw [walk, hends.1, hends.2, ← Finset.sum_Ico_reflect _ _ (by omega), walk]
  refine Finset.sum_congr rfl fun k hk => ?_
  rw [Finset.mem_Ico] at hk
  have hnext : stops.length - 1 - (stops.length - 2 - k) = k + 1 := by omega
  have hhere : stops.length - 1 - (stops.length - 2 - k + 1) = k := by omega
  rw [hstop _ (by omega), hstop _ (by omega), hnext, hhere, hcomm]

end Walks

/-- A time is set in both directions. -/
theorem timeIn_comm (h : List Call) (a b : String) : timeIn h a b = timeIn h b a := by
  have htimes : timesOf h a b = timesOf h b a := by
    unfold timesOf
    simp only [Or.comm]
  unfold timeIn lastTime
  rw [htimes]
  simp only [eq_comm]

/-! ### Legs -/

/-- From `a` to `c` it takes as long as from `a` to `b` and from there to `c`, up to the largest
time, and so no less than to `b`. -/
def AddsUp (time : String → String → Checked UInt32) (a b c : String) : Prop :=
  ∃ s t u, time a b = .ok s ∧ time b c = .ok t ∧ time a c = .ok u ∧
    u.toNat = min (s.toNat + t.toNat) 4294967295 ∧ s ≤ u

/-- Clamped sums over two parts add up to the clamped sum over the whole. -/
theorem addsUp_of_toNat {time : String → String → Checked UInt32} {a b c : String} {v w : Nat}
    (hab : ∃ s, time a b = .ok s ∧ s.toNat = min v 4294967295)
    (hbc : ∃ t, time b c = .ok t ∧ t.toNat = min w 4294967295)
    (hac : ∃ u, time a c = .ok u ∧ u.toNat = min (v + w) 4294967295) : AddsUp time a b c := by
  obtain ⟨s, hs, hsv⟩ := hab
  obtain ⟨t, ht, htw⟩ := hbc
  obtain ⟨u, hu, huvw⟩ := hac
  refine ⟨s, t, u, hs, ht, hu, ?_, UInt32.le_iff_toNat_le.2 ?_⟩
  · omega
  · omega

namespace Network

variable {n : Network} {config : Config} {h : List Call} {l : Line} {r : Route} {a b : String}
  {i j : Nat}

/-- Between two stations on a route, and not against it where the policy gives no time, the time is
the clamped sum of the times of a walk between their positions. -/
theorem Records.toNat_routeTime (hn : n.Records config h) (hl : l ∈ linesOf h) (hr : r ∈ l.routes)
    (ha : r.stops.idxOf? a = some i) (hb : r.stops.idxOf? b = some j)
    (hsum : i ≤ j ∨ config.inbound = .reverseSum) :
    ∃ t, n.routeTime l.id r.id a b = .ok t ∧
      t.toNat = min (walk (timeIn h) r.stops (min i j) (max i j)) 4294967295 := by
  have hi : placeAmong r.stops a = i := by rw [placeAmong, ha, Option.getD_some]
  have hj : placeAmong r.stops b = j := by rw [placeAmong, hb, Option.getD_some]
  have hstops : r.stops ≠ [] := List.ne_nil_of_mem (List.isSome_idxOf?.1 (by rw [ha]; rfl))
  rw [hn.routeTime_eq]
  exact toNat_routeTimeIn (hn.routeOn_eq_some_iff.2 ⟨⟨hl, hr⟩, rfl, rfl⟩) hstops hi hj hsum

/-- The way there is a walk from the first position to the second. -/
theorem Records.toNat_routeTime_there (hn : n.Records config h) (hl : l ∈ linesOf h)
    (hr : r ∈ l.routes) (ha : r.stops.idxOf? a = some i) (hb : r.stops.idxOf? b = some j)
    (hij : i ≤ j) :
    ∃ t, n.routeTime l.id r.id a b = .ok t ∧
      t.toNat = min (walk (timeIn h) r.stops i j) 4294967295 := by
  have htime := hn.toNat_routeTime hl hr ha hb (.inl hij)
  rwa [Nat.min_eq_left hij, Nat.max_eq_right hij] at htime

/-- Where the policy counts the way back, it takes as long as the same walk. -/
theorem Records.toNat_routeTime_back (hn : n.Records config h) (hback : config.inbound = .reverseSum)
    (hl : l ∈ linesOf h) (hr : r ∈ l.routes) (ha : r.stops.idxOf? a = some i)
    (hb : r.stops.idxOf? b = some j) (hij : i ≤ j) :
    ∃ t, n.routeTime l.id r.id b a = .ok t ∧
      t.toNat = min (walk (timeIn h) r.stops i j) 4294967295 := by
  have htime := hn.toNat_routeTime hl hr hb ha (.inr hback)
  rwa [Nat.min_eq_right hij, Nat.max_eq_left hij] at htime

/-- Whatever the calls before, times along a route add up. For three stations on a route, in the
order of its stops or at one stop, the time from the first to the last is that of the two legs
together, up to the largest time, also where a leg has reached it; so it does not decrease with the
way. Where the policy counts the way back, this holds of the way back as well. -/
theorem session_legs (config : Config) (requests : List Request) :
    ∃ n h, session { config := config } requests = .ok n ∧
      accepted { config := config } requests = .ok h ∧
      ∀ l ∈ linesOf h, ∀ r ∈ l.routes, ∀ a b c i j k,
        n.stopPosition? a r.id = .ok (some i) → n.stopPosition? b r.id = .ok (some j) →
        n.stopPosition? c r.id = .ok (some k) → i ≤ j → j ≤ k →
        AddsUp (n.routeTime l.id r.id) a b c ∧
          (config.inbound = .reverseSum → AddsUp (n.routeTime l.id r.id) c b a) := by
  obtain ⟨n, h, hok, hh, hn⟩ := exists_session config requests
  refine ⟨n, h, hok, hh, fun l hl r hr a b c i j k ha hb hc hij hjk => ?_⟩
  rw [hn.stopPosition?_added (mem_routesOf.2 ⟨hl, hr⟩), Except.ok.injEq] at ha hb hc
  have hik := Nat.le_trans hij hjk
  constructor
  · have hab := hn.toNat_routeTime_there hl hr ha hb hij
    have hbc := hn.toNat_routeTime_there hl hr hb hc hjk
    have hac := hn.toNat_routeTime_there hl hr ha hc hik
    rw [← walk_add_walk _ _ hij hjk] at hac
    exact addsUp_of_toNat hab hbc hac
  · intro hback
    have hcb := hn.toNat_routeTime_back hback hl hr hb hc hjk
    have hba := hn.toNat_routeTime_back hback hl hr ha hb hij
    have hca := hn.toNat_routeTime_back hback hl hr ha hc hik
    rw [← walk_add_walk _ _ hij hjk, Nat.add_comm] at hca
    exact addsUp_of_toNat hcb hba hca

/-- A leg that takes the largest time: no further leg makes the journey longer. -/
theorem session_legs_thereAndBack :
    ∃ n, session { config := { inbound := .reverseSum } } thereAndBack = .ok n ∧
      AddsUp (n.routeTime "l" "r") "a" "b" "c" ∧ AddsUp (n.routeTime "l" "r") "c" "b" "a" ∧
      n.routeTime "l" "r" "a" "b" = .ok 4294967295 ∧ n.routeTime "l" "r" "b" "c" = .ok 7 ∧
      n.routeTime "l" "r" "a" "c" = .ok 4294967295 := by
  have hn : session { config := { inbound := .reverseSum } } thereAndBack = .ok _ := rfl
  have hh : accepted { config := { inbound := .reverseSum } } thereAndBack = .ok _ := rfl
  obtain ⟨n, h, hok, haccepted, hlegs⟩ := session_legs { inbound := .reverseSum } thereAndBack
  obtain rfl := Except.ok.inj (hn.symm.trans hok)
  obtain rfl := Except.ok.inj (hh.symm.trans haccepted)
  obtain ⟨hthere, hback⟩ := hlegs ⟨"l", "There", [.along "r" "outbound" "l" ["a", "b", "c"]]⟩
    List.mem_cons_self (.along "r" "outbound" "l" ["a", "b", "c"]) List.mem_cons_self
    "a" "b" "c" 0 1 2 rfl rfl rfl (by decide) (by decide)
  exact ⟨_, hn, hthere, hback rfl, rfl, rfl, rfl⟩

/-! ### The way back -/

/-- Whatever the calls before, a route without repeats and one with the same stops in reverse order
agree, on one line or on two. The positions of a station on them add up to that of the last stop.
From a station to a later one the way is outbound on the one and the way back is outbound on the
other, and both take the same time. -/
theorem session_wayBack (config : Config) (requests : List Request) :
    ∃ n h, session { config := config } requests = .ok n ∧
      accepted { config := config } requests = .ok h ∧
      ∀ l ∈ linesOf h, ∀ r ∈ l.routes, ∀ l' ∈ linesOf h, ∀ r' ∈ l'.routes,
        r.stops.Nodup → r'.stops = r.stops.reverse →
        (∀ a i, n.stopPosition? a r.id = .ok (some i) →
          ∃ i', n.stopPosition? a r'.id = .ok (some i') ∧ i + i' = r.stops.length - 1) ∧
        ∀ a b i j, n.stopPosition? a r.id = .ok (some i) → n.stopPosition? b r.id = .ok (some j) →
          i < j → n.direction a b r.id = .ok .outbound ∧ n.direction b a r'.id = .ok .outbound ∧
            ∃ t, n.routeTime l.id r.id a b = .ok t ∧ n.routeTime l'.id r'.id b a = .ok t := by
  obtain ⟨n, h, hok, hh, hn⟩ := exists_session config requests
  refine ⟨n, h, hok, hh, fun l hl r hr l' hl' r' hr' hdistinct hreverse => ?_⟩
  have hentry := mem_routesOf.2 ⟨hl, hr⟩
  have hentry' := mem_routesOf.2 ⟨hl', hr'⟩
  have hposition : ∀ {a i}, r.stops.idxOf? a = some i →
      i < r.stops.length ∧ r'.stops.idxOf? a = some (r.stops.length - 1 - i) := by
    intro a i ha
    exact ⟨(List.idxOf?_eq_some_iff.1 ha).1, hreverse ▸ idxOf?_reverse hdistinct ha⟩
  constructor
  · intro a i ha
    rw [hn.stopPosition?_added hentry, Except.ok.injEq] at ha
    obtain ⟨hi, ha'⟩ := hposition ha
    exact ⟨_, by rw [hn.stopPosition?_added hentry', ha'], by omega⟩
  · intro a b i j ha hb hij
    rw [hn.stopPosition?_added hentry, Except.ok.injEq] at ha hb
    obtain ⟨hi, ha'⟩ := hposition ha
    obtain ⟨hj, hb'⟩ := hposition hb
    have hij' : r.stops.length - 1 - j ≤ r.stops.length - 1 - i := by omega
    refine ⟨?_, ?_, ?_⟩
    · rw [hn.direction_added hentry, placeAmong, placeAmong, ha, hb]
      exact congrArg Except.ok (if_pos (Nat.le_of_lt hij))
    · rw [hn.direction_added hentry', placeAmong, placeAmong, ha', hb']
      exact congrArg Except.ok (if_pos hij')
    · obtain ⟨t, ht, hwalk⟩ := hn.toNat_routeTime_there hl hr ha hb (Nat.le_of_lt hij)
      obtain ⟨t', ht', hwalk'⟩ := hn.toNat_routeTime_there hl' hr' hb' ha' hij'
      rw [hreverse, walk_reverse (timeIn_comm h) (Nat.le_of_lt hij) hj, ← hwalk] at hwalk'
      exact ⟨t, ht, UInt32.toNat_inj.1 hwalk' ▸ ht'⟩

/-- The way back has its time from the line there. -/
theorem session_wayBack_thereAndBack :
    ∃ n, session {} thereAndBack = .ok n ∧
      n.stopPosition? "b" "r" = .ok (some 1) ∧ n.stopPosition? "b" "s" = .ok (some 1) ∧
      n.direction "a" "b" "r" = .ok .outbound ∧ n.direction "b" "a" "s" = .ok .outbound ∧
      n.routeTime "l" "r" "a" "b" = .ok 4294967295 ∧
      n.routeTime "m" "s" "b" "a" = .ok 4294967295 := by
  have hn : session {} thereAndBack = .ok _ := rfl
  have hh : accepted {} thereAndBack = .ok _ := rfl
  obtain ⟨n, h, hok, haccepted, hback⟩ := session_wayBack {} thereAndBack
  obtain rfl := Except.ok.inj (hn.symm.trans hok)
  obtain rfl := Except.ok.inj (hh.symm.trans haccepted)
  obtain ⟨hposition, htimes⟩ := hback
    ⟨"l", "There", [.along "r" "outbound" "l" ["a", "b", "c"]]⟩ List.mem_cons_self
    (.along "r" "outbound" "l" ["a", "b", "c"]) List.mem_cons_self
    ⟨"m", "Back", [.along "s" "inbound" "m" ["c", "b", "a"]]⟩
    (List.mem_cons_of_mem _ List.mem_cons_self)
    (.along "s" "inbound" "m" ["c", "b", "a"]) List.mem_cons_self (by decide) rfl
  obtain ⟨hout, hin, t, ht, ht'⟩ := htimes "a" "b" 0 1 rfl rfl (by decide)
  obtain rfl : 4294967295 = t := Except.ok.inj ht
  obtain ⟨i, hi, hsum⟩ := hposition "b" 1 rfl
  obtain rfl : i = 1 := Nat.add_left_cancel hsum
  exact ⟨_, hn, rfl, hi, hout, hin, ht, ht'⟩

end Network

end Transit
