import Transit.Proofs.History

/-!
# The time between neighbours

* `segmentTime_eq` and `travelTime_eq`: what is read is the time on the edge, never a fault.
* `Records.adjacent_iff`: two ids are adjacent exactly when an accepted route has them as
  neighbours.
* `session_times`: the time between two stations is the last one that was set between them.
-/

namespace Transit.Network

variable {n : Network} {config : Config} {h : List Call}

/-! ### Reading a time -/

theorem segmentTime_eq (hn : n.Coherent) {x y : Handle .station} (hx : x.index < n.nodes.size) :
    n.segmentTime x y = .ok (if x = y then 0 else n.timeOn (x, y)) := by
  have hnode := Array.getElem?_eq_getElem hx
  unfold segmentTime
  by_cases hxy : x = y
  · rw [if_pos hxy, if_pos hxy]
    rfl
  · rw [if_neg hxy, if_neg hxy, node_eq_ok_iff.2 hnode, Checked.ok_bind]
    by_cases hends : (x, y) ∈ n.ends
    · obtain ⟨i, hi⟩ := List.mem_iff_getElem?.1 hends
      have hout := (hn.meshed.outbound_get?_iff (e := ⟨i⟩) hnode).2 hi
      obtain ⟨e, he, hee⟩ := getElem?_ends_eq_some_iff.1 hi
      have hmem : e ∈ n.edges.toList := mem_toList_of_getElem? he
      have hedge : n.edge ⟨i⟩ = .ok e := edge_eq_ok_iff.2 he
      rw [hout, ← hee, timeOn_ends hn.meshed.nodup hmem]
      show (do return (← n.edge ⟨i⟩).time) = Except.ok e.time
      rw [hedge]
      rfl
    · -- no edge forth means none back, so neither directory has an entry
      have hback : (y, x) ∉ n.ends := fun hm => hends (hn.swap_mem_ends_iff.1 hm)
      rw [(hn.meshed.outbound_get?_eq_none_iff hnode).2 hends,
        (hn.meshed.inbound_get?_eq_none_iff hnode).2 hback, timeOn_eq_zero hends]
      rfl

/-- The time between two ids is zero for an id and itself, and else the one on the edge. -/
theorem travelTime_eq (hn : n.Coherent) (a b : String) :
    n.travelTime a b = .ok (if a = b then 0 else n.timeBetween a b) := by
  unfold travelTime timeBetween
  by_cases hab : a = b
  · rw [if_pos hab, if_pos hab]
    rfl
  · rw [if_neg hab, if_neg hab]
    cases hx : n.station? a with
    | none => rfl
    | some x =>
      cases hy : n.station? b with
      | none => rfl
      | some y =>
        have hxy : x ≠ y := by
          rintro rfl
          exact hab (hn.station?_inj hx hy)
        show n.segmentTime x y = .ok (n.timeOn (x, y))
        rw [segmentTime_eq hn (hn.station?_lt hx), if_neg hxy]

/-! ### Who is adjacent to whom -/

/-- Stations are neighbours on a stored route exactly when their ids are on the accepted one. -/
theorem Stores.neighbours_iff (hn : n.Coherent) {z : StoredRoute} {entry : Line × Route}
    (hz : n.Stores z entry) {a b : String} {x y : Handle .station} (hx : n.station? a = some x)
    (hy : n.station? b = some y) :
    Neighbours x y z.stops ↔ Neighbours a b entry.2.stops := by
  have hinj : ∀ stop ∈ entry.2.stops, ∀ id, n.station? stop = n.station? id → stop = id := by
    intro stop hstop id he
    obtain ⟨s, hs⟩ := hz.known hstop
    exact hn.station?_inj hs (he ▸ hs)
  calc Neighbours x y z.stops
      ↔ Neighbours (some x) (some y) (z.stops.map some) :=
        (Neighbours.map_iff fun _ _ _ he => Option.some.inj he).symm
    _ ↔ Neighbours (n.station? a) (n.station? b) (entry.2.stops.map n.station?) := by
        rw [hz.stops, hx, hy]
    _ ↔ Neighbours a b entry.2.stops := Neighbours.map_iff hinj

/-- Two ids are adjacent exactly when an accepted route has them as neighbours. -/
theorem Records.adjacent_iff (hn : n.Records config h) {a b : String} :
    n.Adjacent a b ↔ ∃ entry ∈ routesOf h, Neighbours a b entry.2.stops := by
  constructor
  · rintro ⟨x, y, hx, hy, hxy⟩
    obtain ⟨z, hz, hnb⟩ := hn.coherent.mem_ends_iff.1 hxy
    obtain ⟨entry, hentry, hstores⟩ := hn.exists_added hz
    exact ⟨entry, hentry, (hstores.neighbours_iff hn.coherent hx hy).1 hnb⟩
  · rintro ⟨entry, hentry, hnb⟩
    obtain ⟨z, hz, hstores⟩ := hn.exists_stored hentry
    obtain ⟨x, hx⟩ := hstores.known hnb.mem.1
    obtain ⟨y, hy⟩ := hstores.known hnb.mem.2
    refine ⟨x, y, hx, hy, hn.coherent.mem_ends_iff.2 ⟨z, hz, ?_⟩⟩
    exact (hstores.neighbours_iff hn.coherent hx hy).2 hnb

/-! ### Over a session -/

/-- Whatever the calls before, a time is set exactly between stations that an accepted route has as
neighbours; the one that was set last is read in both directions, and zero before the first. -/
theorem session_times (config : Config) (requests : List Request) :
    ∃ n h, session { config := config } requests = .ok n ∧
      accepted { config := config } requests = .ok h ∧
      (∀ a b t, ∃ o, n.setTravelTime a b t = .ok o ∧
        (o.verdict = .ok () ↔
          (∃ s ∈ stationsOf h, s.id = a) ∧ (∃ s ∈ stationsOf h, s.id = b) ∧
            ∃ l ∈ linesOf h, ∃ r ∈ l.routes, Neighbours a b r.stops) ∧
        (o.verdict ≠ .ok () → o.verdict = .error (.notAdjacent a b) ∧ o.network = n)) ∧
      (∀ a b, a ≠ b → n.travelTime a b = .ok ((lastTime h a b).getD 0)) ∧
      ∀ a, n.travelTime a a = .ok 0 := by
  obtain ⟨n, h, hok, hh, hn⟩ := exists_session config requests
  have hknown : ∀ {id s}, n.station? id = some s → ∃ s ∈ stationsOf h, s.id = id := by
    intro id s hs
    obtain ⟨x, hx, rfl⟩ := hn.coherent.station?_iff.1 hs
    have hm : x.id ∈ n.stationIds :=
      List.mem_map_of_mem (List.mem_of_getElem? (by simpa using hx))
    rw [hn.stations] at hm
    exact List.mem_map.1 hm
  refine ⟨n, h, hok, hh, ?_, ?_, ?_⟩
  · intro a b t
    have hiff : n.Adjacent a b ↔ (∃ s ∈ stationsOf h, s.id = a) ∧ (∃ s ∈ stationsOf h, s.id = b) ∧
        ∃ l ∈ linesOf h, ∃ r ∈ l.routes, Neighbours a b r.stops := by
      constructor
      · intro hab
        obtain ⟨⟨l, r⟩, hentry, hnb⟩ := hn.adjacent_iff.1 hab
        obtain ⟨hl, hr⟩ := mem_routesOf.1 hentry
        obtain ⟨x, y, hx, hy, -⟩ := hab
        exact ⟨hknown hx, hknown hy, l, hl, r, hr, hnb⟩
      · rintro ⟨-, -, l, hl, r, hr, hnb⟩
        exact hn.adjacent_iff.2 ⟨(l, r), mem_routesOf.2 ⟨hl, hr⟩, hnb⟩
    rw [← hiff]
    obtain ⟨hab, -, -, n', -, -, hset, -⟩ | ⟨hab, hset⟩ := setTravelTime_cases hn.coherent a b t
    · refine ⟨_, hset, iff_of_true rfl hab, ?_⟩
      intro hne
      exact absurd rfl hne
    · refine ⟨_, hset, iff_of_false nofun hab, ?_⟩
      intro _
      exact ⟨rfl, rfl⟩
  · intro a b hab
    rw [travelTime_eq hn.coherent, if_neg hab, hn.times]
  · intro a
    rw [travelTime_eq hn.coherent, if_pos rfl]

end Transit.Network
