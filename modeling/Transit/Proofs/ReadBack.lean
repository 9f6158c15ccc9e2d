import Transit.Proofs.Contents
import Transit.Proofs.Lookups

/-!
# Reading a line back

`Network.ReadsBack n l` says that the queries give the line `l` back as it was submitted.

* `Holds.readsBack`: a network reads back every line of its history; `Holds.readsBack_added`: so it
  does once a line is added, and after further calls.
* `addLine_readsBack`: so a line that is added can be read back after whatever comes later.
-/

namespace Transit.Network

variable {n n' : Network} {config : Config} {h : List Call}

/-- The queries give a line back as it was submitted: its name, the ids of its routes, the labels of
the routes, and the place of every stop. -/
structure ReadsBack (n : Network) (l : Line) : Prop where
  name : n.lineName? l.id = .ok (some l.name)
  routes : n.routesOfLine l.id = .ok (l.routes.map (·.id))
  direction : ∀ r ∈ l.routes, n.routeDirection? r.id = .ok (some r.direction)
  position : ∀ r ∈ l.routes, ∀ station,
    n.stopPosition? station r.id = .ok (r.stops.idxOf? station)

/-- A station stands on a stored route where its id stands on the route that was added. -/
theorem Stores.position (hn : n.Routed) {x : StoredRoute} {entry : Line × Route}
    (hx : n.Stores x entry) (station : String) :
    (n.station? station).bind x.position? = entry.2.stops.idxOf? station := by
  cases hs : n.station? station with
  | none =>
    refine (List.idxOf?_eq_none_iff.2 fun hstop => ?_).symm
    obtain ⟨s, hs'⟩ := hx.known hstop
    rw [hs] at hs'
    cases hs'
  | some s =>
    have hinj : ∀ stop ∈ entry.2.stops, n.station? stop = n.station? station → stop = station :=
      fun stop _ he => hn.station?_inj (he.trans hs) hs
    calc x.stops.idxOf? s
        = (x.stops.map some).idxOf? (some s) := (idxOf?_map fun _ _ he => Option.some.inj he).symm
      _ = (entry.2.stops.map n.station?).idxOf? (n.station? station) := by rw [hx.stops, hs]
      _ = entry.2.stops.idxOf? station := idxOf?_map hinj

/-- A network reads back every line that was added to it. -/
theorem Holds.readsBack (hn : n.Holds config h) {l : Line} (hl : l ∈ linesOf h) :
    n.ReadsBack l := by
  obtain ⟨x, hx, hkeeps⟩ := exists_of_forall₂ (R := fun l x => n.KeepsLine x l) hn.lineTable.flip hl
  obtain ⟨i, hi⟩ := List.mem_iff_getElem?.1 hx
  rw [Array.getElem?_toList] at hi
  have hstored : ∀ r ∈ l.routes, ∃ y, n.findRoute? r.id = .ok (some y) ∧ n.Stores y (l, r) := by
    intro r hr
    obtain ⟨y, hy, hstores⟩ := hn.exists_stored (mem_routesOf.2 ⟨hl, hr⟩)
    exact ⟨y, hstores.id ▸ findRoute?_stored hn.coherent hy, hstores⟩
  constructor
  · rw [← hkeeps.id, lineName?_eq hn.coherent (l := ⟨i⟩) hi, hkeeps.name]
  · rw [← hkeeps.id, routesOfLine_eq hn.coherent (l := ⟨i⟩) hi, filterMap_routeId? hkeeps]
  · intro r hr
    obtain ⟨y, hy, hstores⟩ := hstored r hr
    rw [routeDirection?, hy, Checked.ok_bind, Option.map_some, hstores.direction]
    rfl
  · intro r hr station
    obtain ⟨y, hy, hstores⟩ := hstored r hr
    rw [stopPosition?, hy, Checked.ok_bind, ← hstores.position hn.coherent.toRouted station]
    rfl

/-- A line that is added is among those of the history from then on, so it is read back after any
further calls. -/
theorem Holds.readsBack_added (hn : n.Holds config h) {l : Line}
    (hl : n.addLine l = .ok ⟨.ok (), n'⟩) (later : List Call) {n'' : Network}
    (hlater : n'.attempt later = .ok ⟨.ok (), n''⟩) : n''.ReadsBack l := by
  have hadded : n'.Holds config (h ++ [.addLine l]) := hn.effect (effect_of_apply hn.coherent hl)
  refine (hadded.attempt hlater).readsBack ?_
  rw [linesOf_append, linesOf_append]
  exact List.mem_append_left _ (List.mem_append_right _ List.mem_cons_self)

/-- A line that is added is read back exactly as it was submitted, whatever comes later. -/
theorem addLine_readsBack (hn : n.Reachable) {l : Line} (hl : n.addLine l = .ok ⟨.ok (), n'⟩)
    (later : List Request) : ∃ n'', n'.session later = .ok n'' ∧ n''.ReadsBack l := by
  obtain ⟨config, h, hh⟩ := hn.holds
  have hcoherent := (effect_of_apply (c := .addLine l) hh.coherent hl).coherent hh.coherent
  obtain ⟨n'', cs, hsession, -, hreplay⟩ := session_replay hcoherent later
  exact ⟨n'', hsession, hh.readsBack_added hl cs hreplay⟩

/-- A route of the line `l` that claims another line and other ends, and that stops at `b` twice. -/
theorem addLine_readsBack_shuttle :
    ∃ n n' n'',
      session {} [.call (.addStation ⟨"a", "A"⟩), .call (.addStation ⟨"b", "B"⟩)] = .ok n ∧
      n.addLine ⟨"l", "Shuttle", [⟨"r", "north", "m", "x", "y", ["a", "b", "b"]⟩]⟩ =
        .ok ⟨.ok (), n'⟩ ∧
      n'.session [.call (.addStation ⟨"x", "X"⟩), .call (.addLine ⟨"l", "Again", []⟩)] = .ok n'' ∧
      n''.ReadsBack ⟨"l", "Shuttle", [⟨"r", "north", "m", "x", "y", ["a", "b", "b"]⟩]⟩ := by
  have hn : session {} [.call (.addStation ⟨"a", "A"⟩), .call (.addStation ⟨"b", "B"⟩)] =
      .ok _ := rfl
  obtain ⟨n'', hlater, hback⟩ := addLine_readsBack
    (l := ⟨"l", "Shuttle", [⟨"r", "north", "m", "x", "y", ["a", "b", "b"]⟩]⟩) ⟨{}, _, hn⟩ rfl
    [.call (.addStation ⟨"x", "X"⟩), .call (.addLine ⟨"l", "Again", []⟩)]
  exact ⟨_, _, n'', hn, rfl, hlater, hback⟩

end Transit.Network
