import Transit.Proofs.History

/-!
# Names, passengers and the routes of lines

What a network keeps of its history besides the ids, stops and times that `Network.Records` speaks
of.

* `balance h id`: the passengers that the events of a history bring to a station.
* `Network.Holds n config h`: besides what it records, `n` has the names of the stations and lines,
  the balance of every station, and under every line the routes that came with it.
* `exists_contents`: the network of every session does.
-/

namespace Transit

/-! ### Reading the passengers off a history -/

/-- The events that the calls book. -/
def eventsOf (h : List Call) : List PassengerEvent :=
  h.filterMap fun
    | .record e => some e
    | _ => none

/-- The passengers that entered the station, less those that left it. -/
def balance (h : List Call) (station : String) : Int :=
  ((eventsOf h).count ⟨station, .entry⟩ : Int) - (eventsOf h).count ⟨station, .leave⟩

section Append

variable {h h' : List Call}

theorem eventsOf_append : eventsOf (h ++ h') = eventsOf h ++ eventsOf h' :=
  List.filterMap_append

theorem balance_append (station : String) :
    balance (h ++ h') station = balance h station + balance h' station := by
  unfold balance
  rw [eventsOf_append, List.count_append, List.count_append]
  omega

/-- An event counts at its own station and nowhere else. -/
theorem balance_record (e : PassengerEvent) (station : String) :
    balance [.record e] station = if e.station = station then e.delta else 0 := by
  obtain ⟨at_, passage⟩ := e
  by_cases hs : at_ = station
  · cases passage <;> simp [balance, eventsOf, PassengerEvent.delta, hs]
  · simp [balance, eventsOf, hs]

/-- Where no event was booked, nobody came or went. -/
theorem balance_eq_zero {station : String} (hs : ∀ e ∈ eventsOf h, e.station ≠ station) :
    balance h station = 0 := by
  have hcount : ∀ passage, (eventsOf h).count ⟨station, passage⟩ = 0 := fun passage =>
    List.count_eq_zero.2 fun hm => hs _ hm rfl
  simp [balance, hcount]

theorem balance_append_of_no_event (hc : eventsOf h' = []) (station : String) :
    balance (h ++ h') station = balance h station := by
  rw [balance_append, balance_eq_zero (h := h') (by simp [hc]), Int.add_zero]

end Append

namespace Network

variable {n n' : Network} {config : Config} {h : List Call}

/-! ### What is held -/

/-- The stored line `x` is the line `l` as it was added. -/
structure KeepsLine (n : Network) (x : StoredLine) (l : Line) : Prop where
  id : x.id = l.id
  name : x.name = l.name
  routes : x.routes.map n.routeId? = l.routes.map fun r => some r.id

/-- The network holds what the calls, each one accepted in its turn, have brought to an empty
one. -/
structure Holds (n : Network) (config : Config) (h : List Call) : Prop
    extends n.Records config h where
  names : (n.nodes.toList.map fun x => (x.id, x.name)) = (stationsOf h).map fun s => (s.id, s.name)
  passengers : ∀ x ∈ n.nodes.toList, x.passengers = balance h x.id
  /-- Passengers come and go at stations only. -/
  events : ∀ e ∈ eventsOf h, e.station ∈ n.stationIds
  lineTable : List.Forall₂ n.KeepsLine n.lines.toList (linesOf h)

theorem Holds.empty (config : Config) : Holds { config := config } config [] where
  toRecords := .empty config
  names := rfl
  passengers := by simp
  events := nofun
  lineTable := .nil

/-! ### The effect of a call -/

/-- A stored line stays as it is when the handles of its routes keep their ids. -/
theorem KeepsLine.mono {x : StoredLine} {l : Line} (hx : n.KeepsLine x l)
    (hr : ∀ r id, n.routeId? r = some id → n'.routeId? r = some id) : n'.KeepsLine x l where
  id := hx.id
  name := hx.name
  routes := by
    rw [← hx.routes]
    refine List.map_congr_left fun r hm => ?_
    have hsome : n.routeId? r ∈ l.routes.map fun r => some r.id :=
      hx.routes ▸ List.mem_map_of_mem hm
    obtain ⟨r', -, hid⟩ := List.mem_map.1 hsome
    rw [← hid, hr r r'.id hid.symm]

/-- The handles that a line lists stand for the ids of its routes. -/
theorem filterMap_routeId? {x : StoredLine} {l : Line} (hx : n.KeepsLine x l) :
    x.routes.filterMap n.routeId? = l.routes.map (·.id) := by
  have hids : x.routes.filterMap n.routeId? = (x.routes.map n.routeId?).filterMap id := by
    rw [List.filterMap_map]
    rfl
  rw [hids, hx.routes]
  simp [List.filterMap_map]

/-- The names do not change while the stations are the same but for their edges. -/
theorem map_names_of_bare
    (hbare : n'.nodes.map Node.bare = n.nodes.map Node.bare) :
    (n'.nodes.toList.map fun x => (x.id, x.name)) = n.nodes.toList.map fun x => (x.id, x.name) := by
  have hmap := congrArg (fun xs : Array Node => xs.toList.map fun x => (x.id, x.name)) hbare
  simpa [Function.comp_def, Node.bare] using hmap

theorem passengers_of_bare (hbare : n'.nodes.map Node.bare = n.nodes.map Node.bare)
    (hn : ∀ x ∈ n.nodes.toList, x.passengers = balance h x.id) :
    ∀ x ∈ n'.nodes.toList, x.passengers = balance h x.id := by
  intro x hx
  have hm : x.bare ∈ (n'.nodes.map Node.bare).toList := by
    rw [Array.toList_map]
    exact List.mem_map_of_mem hx
  rw [hbare, Array.toList_map] at hm
  obtain ⟨y, hy, he⟩ := List.mem_map.1 hm
  obtain ⟨hid, -, -, -, hpassengers⟩ := Node.mk.inj he
  rw [← hpassengers, ← hid, hn y hy]

theorem names_booked (s : Handle .station) (d : Int) :
    ((n.booked s d).nodes.toList.map fun x => (x.id, x.name)) =
      n.nodes.toList.map fun x => (x.id, x.name) := by
  have h := congrArg Array.toList (map_modify_of_forall
    (f := fun x : Node => { x with passengers := x.passengers + d })
    (g := fun x => (x.id, x.name)) (fun _ => rfl) n.nodes s.index)
  rwa [Array.toList_map, Array.toList_map] at h

/-- Booking at a station changes its count, and that of no other station. -/
theorem passengers_booked (hn : n.Holds config h) {e : PassengerEvent} {s : Handle .station}
    (hs : n.station? e.station = some s) :
    ∀ x ∈ (n.booked s e.delta).nodes.toList,
      x.passengers = balance (h ++ [.record e]) x.id := by
  intro x hx
  obtain ⟨i, hi⟩ := List.mem_iff_getElem?.1 hx
  rw [Array.getElem?_toList, booked, Array.getElem?_modify] at hi
  rw [balance_append, balance_record]
  split at hi
  · -- the station itself
    rename_i hsi
    obtain ⟨old, hold, rfl⟩ := Option.map_eq_some_iff.1 hi
    obtain ⟨y, hy, hid⟩ := hn.coherent.station?_iff.1 hs
    rw [hsi, hold, Option.some.injEq] at hy
    subst hy
    have hm : old ∈ n.nodes.toList := mem_toList_of_getElem? hold
    rw [if_pos hid.symm, ← hn.passengers old hm]
  · -- another one, which has another id
    rename_i hsi
    have hne : e.station ≠ x.id := by
      intro hid
      have hxs : n.station? x.id = some ⟨i⟩ := hn.coherent.station?_iff.2 ⟨x, hi, rfl⟩
      rw [← hid, hs, Option.some.injEq] at hxs
      exact hsi (congrArg Handle.index hxs)
    have hm : x ∈ n.nodes.toList := mem_toList_of_getElem? hi
    rw [if_neg hne, Int.add_zero, hn.passengers x hm]

/-- The lines stay as they are under a call that adds none. -/
theorem Holds.lineTable_of_no_line (hn : n.Holds config h) {c : Call} (hc : linesOf [c] = [])
    (hroutes : n'.routes = n.routes) (hlines : n'.lines = n.lines) :
    List.Forall₂ n'.KeepsLine n'.lines.toList (linesOf (h ++ [c])) := by
  rw [linesOf_append, hc, List.append_nil, hlines]
  refine hn.lineTable.imp fun x l hx => hx.mono fun r id hr => ?_
  rwa [routeId?, hroutes]

/-- A new line comes last, with its own routes. -/
theorem Holds.lineTable_installed (hn : n.Holds config h) {l : Line}
    (h' : Installed n n' l (n.resolved l)) :
    List.Forall₂ n'.KeepsLine n'.lines.toList (linesOf (h ++ [.addLine l])) := by
  have hid : ∀ r, n'.routeId? r =
      ((n.routes.toList ++ (n.resolved l).map (stored ⟨n.lines.size⟩))[r.index]?).map (·.id) := by
    intro r
    rw [routeId?, ← Array.getElem?_toList, h'.routes]
  have hold : List.Forall₂ n'.KeepsLine n.lines.toList (linesOf h) := by
    refine hn.lineTable.imp fun x k hx => hx.mono fun r id hr => ?_
    obtain ⟨route, hroute, -⟩ := Option.map_eq_some_iff.1 hr
    rw [← hr, hid, routeId?, ← Array.getElem?_toList, List.getElem?_append_left]
    simpa using (Array.getElem?_eq_some_iff.1 hroute).1
  have hnew : n'.KeepsLine (n.storedLine l (n.resolved l).length) l := by
    refine ⟨rfl, rfl, ?_⟩
    -- its routes are those behind the routes of old, in order
    apply List.ext_getElem
    · simp [storedLine, resolved]
    · intro i hi hi'
      rw [List.length_map] at hi'
      simp [storedLine, hid, resolved, stored, hi']
  rw [h'.lines, linesOf_append]
  exact List.rel_append hold (.cons hnew .nil)

/-- Events stay at known stations under a call that books none elsewhere. -/
theorem Holds.events_effect (hn : n.Holds config h) {c : Call}
    (hn' : n'.Records config (h ++ [c])) (hc : ∀ e ∈ eventsOf [c], e.station ∈ n.stationIds) :
    ∀ e ∈ eventsOf (h ++ [c]), e.station ∈ n'.stationIds := by
  intro e he
  rw [eventsOf_append, List.mem_append] at he
  rw [hn.stationIds_append hn', List.mem_append]
  rcases he with he | he
  · exact .inl (hn.events e he)
  · exact .inl (hc e he)

/-- A call about lines or times leaves the stations but for their edges. -/
theorem Holds.of_bare (hn : n.Holds config h) {c : Call} (hn' : n'.Records config (h ++ [c]))
    (hstations : stationsOf [c] = []) (hevents : eventsOf [c] = [])
    (hnodes : n'.nodes.map Node.bare = n.nodes.map Node.bare)
    (hlines : List.Forall₂ n'.KeepsLine n'.lines.toList (linesOf (h ++ [c]))) :
    n'.Holds config (h ++ [c]) where
  toRecords := hn'
  names := by
    rw [map_names_of_bare hnodes, hn.names, stationsOf_append, hstations, List.append_nil]
  passengers x hx := by
    rw [balance_append_of_no_event hevents]
    exact passengers_of_bare hnodes hn.passengers x hx
  events := hn.events_effect hn' (by simp [hevents])
  lineTable := hlines

/-- At a station to come, no event can have been booked. -/
theorem Holds.balance_unknown (hn : n.Holds config h) {id : String} (hid : id ∉ n.stationIds) :
    balance h id = 0 :=
  balance_eq_zero fun e he hs => hid (hs ▸ hn.events e he)

theorem Holds.effect (hn : n.Holds config h) {c : Call} (hc : n.Effect c n') :
    n'.Holds config (h ++ [c]) := by
  have hrecords := hn.toRecords.effect hc
  cases hc with
  | @addStation s hid =>
    refine ⟨hrecords, ?_, ?_, hn.events_effect hrecords nofun,
      hn.lineTable_of_no_line rfl rfl rfl⟩
    · simp [pushStation, hn.names, stationsOf]
    · intro x hx
      rw [balance_append_of_no_event rfl]
      rw [pushStation, Array.toList_push, List.mem_append, List.mem_singleton] at hx
      rcases hx with hx | rfl
      · exact hn.passengers x hx
      · exact (hn.balance_unknown hid).symm
  | addLine _ h' =>
    have hnodes : n'.nodes.map Node.bare = n.nodes.map Node.bare := by
      simpa using congrArg (fun m : Network => m.nodes) h'.bare
    exact hn.of_bare hrecords rfl rfl hnodes (hn.lineTable_installed h')
  | setTravelTime _ _ h' =>
    obtain ⟨-, hnodes, hroutes, hlines, -⟩ := bare_eq_iff.1 h'.bare
    exact hn.of_bare hrecords rfl rfl hnodes (hn.lineTable_of_no_line rfl hroutes hlines)
  | @record e s hs =>
    refine ⟨hrecords, ?_, passengers_booked hn hs, hn.events_effect hrecords ?_,
      hn.lineTable_of_no_line rfl rfl rfl⟩
    · rw [names_booked, hn.names, stationsOf_append]
      exact congrArg _ (List.append_nil _).symm
    · intro e' he'
      obtain rfl : e' = e := List.mem_singleton.1 he'
      exact hn.coherent.mem_stationIds hs

/-! ### Whole runs -/

theorem Holds.attempt (hn : n.Holds config h) {cs : List Call}
    (hcs : n.attempt cs = .ok ⟨.ok (), n'⟩) : n'.Holds config (h ++ cs) := by
  refine attempt_invariant hn.coherent (fun done m => m.Holds config (h ++ done)) ?_ ?_ hcs
  · rwa [List.append_nil]
  · intro done c m m' _ hm hc
    rw [← List.append_assoc]
    exact hm.effect hc

/-- Every session ends, and its last network holds what the calls accepted on the way brought. -/
theorem exists_contents (config : Config) (rs : List Request) :
    ∃ n h, session { config := config } rs = .ok n ∧ accepted { config := config } rs = .ok h ∧
      n.Holds config h := by
  obtain ⟨n, h, hn, hh, hreplay⟩ := session_replay (.empty config) rs
  exact ⟨n, h, hn, hh, (Holds.empty config).attempt hreplay⟩

theorem Reachable.holds (hn : n.Reachable) : ∃ config h, n.Holds config h := by
  obtain ⟨config, rs, hrs⟩ := hn
  obtain ⟨n', h, hok, -, hn'⟩ := exists_contents config rs
  rw [hrs, Except.ok.injEq] at hok
  exact ⟨config, h, hok ▸ hn'⟩

end Network

end Transit
