import Transit.Network.Ledger
import Transit.Network.TravelTime
import Transit.Proofs.Coherence

/-!
# Stations, travel times and passengers

What the calls that add no line do to a network whose tables agree. Each of them succeeds, is
refused exactly where it should be, and leaves tables that agree.

* `addStation_eq`, `setTravelTime_cases` and `record_eq` give the outcomes.
* `Network.Timed n n' ps t`: `n'` is `n` with the time `t` on the edges along `ps`.
-/

namespace Transit.Network

variable {n n' n'' : Network}

/-! ### Adding a station -/

/-- The network with a new station, which no edge touches. -/
def pushStation (n : Network) (s : Station) : Network :=
  { n with
    nodes := n.nodes.push { id := s.id, name := s.name }
    stationHandles := n.stationHandles.insert s.id ⟨n.nodes.size⟩ }

theorem length_stationIds : n.stationIds.length = n.nodes.size := by simp [stationIds]

theorem addStation_eq (hn : n.Coherent) (s : Station) :
    n.addStation s =
      if s.id ∈ n.stationIds then ⟨.error (.stationAlreadyExists s.id), n⟩
      else ⟨.ok (), n.pushStation s⟩ := by
  unfold addStation
  simp only [hn.stationHandles.contains_iff]
  rfl

theorem Meshed.pushStation (hn : n.Meshed) (s : Station) : (n.pushStation s).Meshed := by
  have hlast : ∀ x : Handle .station, ∀ node, (n.pushStation s).nodes[x.index]? = some node →
      n.nodes[x.index]? = some node ∨
        (x.index = n.nodes.size ∧ node.outbound = ∅ ∧ node.inbound = ∅) := by
    intro x node hx
    rw [Network.pushStation, Array.getElem?_push] at hx
    split at hx
    · rename_i hi
      rw [Option.some.injEq] at hx
      subst hx
      exact Or.inr ⟨hi, rfl, rfl⟩
    · exact Or.inl hx
  -- no edge of the network touches the station to come
  have hnone : ∀ x : Handle .station, x.index = n.nodes.size →
      leaving n.ends x = [] ∧ arriving n.ends x = [] := by
    intro x hx
    constructor <;> rw [List.eq_nil_iff_forall_not_mem]
    · rintro ⟨y, e⟩ hm
      have h := hn.bounded _ (List.mem_of_getElem? (mem_leaving.1 hm))
      simp only at h
      omega
    · rintro ⟨y, e⟩ hm
      have h := hn.bounded _ (List.mem_of_getElem? (mem_arriving.1 hm))
      simp only at h
      omega
  constructor
  · exact hn.nodup
  · intro p hp
    have h := hn.bounded p hp
    simp only [Network.pushStation, Array.size_push]
    omega
  · intro x node hx
    rcases hlast x node hx with hx | ⟨hx, hout, -⟩
    · exact hn.outbound x node hx
    · rw [hout]
      exact (hnone x hx).1.symm
  · intro x node hx
    rcases hlast x node hx with hx | ⟨hx, -, hin⟩
    · exact hn.inbound x node hx
    · rw [hin]
      exact (hnone x hx).2.symm

theorem Coherent.pushStation (hn : n.Coherent) {s : Station} (hid : s.id ∉ n.stationIds) :
    (n.pushStation s).Coherent where
  stationHandles := by
    have h := hn.stationHandles.insert hid
    rw [length_stationIds] at h
    simpa [Network.pushStation, stationIds] using h
  routeHandles := hn.routeHandles
  meshed := hn.meshed.pushStation s
  ends := hn.ends
  riders := hn.riders
  twins := hn.twins
  stops := by
    intro r hr s' hs'
    have h := hn.stops r hr s' hs'
    simp only [Network.pushStation, Array.size_push]
    omega
  lineHandles := hn.lineHandles
  lineRoutes := hn.lineRoutes
  routeLines := hn.routeLines

/-! ### Setting a travel time -/

/-- `n'` is `n` with the time `t` on the edges along `ps`. -/
structure Timed (n n' : Network) (ps : List (Handle .station × Handle .station)) (t : UInt32) :
    Prop where
  meshed : n'.Meshed
  bare : n'.bare = n.bare
  ends : n'.ends = n.ends
  riders : ∀ p, n'.riders p = n.riders p
  timeOn : ∀ p, n'.timeOn p = if p ∈ ps then t else n.timeOn p

theorem Timed.trans {ps qs : List (Handle .station × Handle .station)} {t : UInt32}
    (h : Timed n n' ps t) (h' : Timed n' n'' qs t) : Timed n n'' (ps ++ qs) t where
  meshed := h'.meshed
  bare := h'.bare.trans h.bare
  ends := h'.ends.trans h.ends
  riders p := (h'.riders p).trans (h.riders p)
  timeOn p := by
    rw [h'.timeOn, h.timeOn]
    by_cases hp : p ∈ ps <;> by_cases hq : p ∈ qs <;> simp [hp, hq]

/-- An edge of the table takes a time. -/
theorem modifyEdge_timed (hn : n.Meshed) {e : Handle .edge} {x : Edge}
    (hx : n.edges[e.index]? = some x) (t : UInt32) :
    ∃ n', n.modifyEdge e (fun x => { x with time := t }) = .ok n' ∧ Timed n n' [x.ends] t := by
  have hmem : x ∈ n.edges.toList := mem_toList_of_getElem? hx
  have hends : ∀ y : Edge, Edge.ends { y with time := t } = y.ends := fun _ => rfl
  refine ⟨_, modifyEdge_ok (Array.getElem?_eq_some_iff.1 hx).1 _, ?_⟩
  constructor
  · exact hn.modify hends
  · rfl
  · exact ends_modify hends
  · intro p
    rw [riders, edgeOn?_modify hn.nodup hends hx]
    by_cases hp : p = x.ends
    · subst hp
      simp [riders_ends hn.nodup hmem]
    · simp [hp, riders]
  · intro p
    rw [timeOn, edgeOn?_modify hn.nodup hends hx]
    by_cases hp : p = x.ends
    · simp [hp]
    · simp [hp, timeOn]

/-- Writing one time on an edge and on its reverse leaves tables that agree. -/
theorem Coherent.timed (hn : n.Coherent) {p : Handle .station × Handle .station} {t : UInt32}
    (h : Timed n n' [p, p.swap] t) : n'.Coherent := by
  obtain ⟨-, -, hroutes, hlines, hstations, hhandles, hlineHandles⟩ := bare_eq_iff.1 h.bare
  constructor
  · constructor
    · rw [hstations, stationIds_of_bare h.bare]
      exact hn.stationHandles
    · rw [hhandles, routeIds, hroutes]
      exact hn.routeHandles
    · exact h.meshed
    · rw [h.ends, hn.ends, allSteps, allSteps, hroutes]
    · intro q
      rw [h.riders, hn.riders, routesJoining, routesJoining, hroutes]
    · intro q
      rw [h.timeOn, h.timeOn, hn.twins]
      -- the two edges are each other's reverse: both take the time, or neither does
      have hswap : q.swap ∈ [p, p.swap] ↔ q ∈ [p, p.swap] := by
        obtain ⟨a, b⟩ := p
        obtain ⟨c, d⟩ := q
        simp only [Prod.swap_prod_mk, List.mem_cons, Prod.mk.injEq, List.not_mem_nil, or_false]
        tauto
      simp only [hswap]
    · rw [hroutes, size_nodes_of_bare h.bare]
      exact hn.stops
  · rw [hlineHandles, lineIds, hlines]
    exact hn.lineHandles
  · rw [hlines, hroutes]
    exact hn.lineRoutes
  · rw [hlines, hroutes]
    exact hn.routeLines

/-- Two ids are those of stations that an edge joins. -/
def Adjacent (n : Network) (a b : String) : Prop :=
  ∃ x y, n.station? a = some x ∧ n.station? b = some y ∧ (x, y) ∈ n.ends

section SetTravelTime

variable {a b : String} {x y : Handle .station}

/-- A time between neighbours is written on the edges between them, in both directions. -/
theorem setTravelTime_adjacent (hn : n.Coherent) (hx : n.station? a = some x)
    (hy : n.station? b = some y) (hxy : (x, y) ∈ n.ends) (t : UInt32) :
    ∃ n', n.setTravelTime a b t = .ok ⟨.ok (), n'⟩ ∧ Timed n n' [(x, y), (y, x)] t := by
  obtain ⟨node, hnode, -⟩ := hn.station?_iff.1 hx
  have hyx : (y, x) ∈ n.ends := hn.swap_mem_ends_iff.2 hxy
  obtain ⟨i, hi⟩ := List.mem_iff_getElem?.1 hxy
  obtain ⟨j, hj⟩ := List.mem_iff_getElem?.1 hyx
  have hout : node.outbound.get? y = some ⟨i⟩ := (hn.meshed.outbound_get?_iff hnode).2 hi
  have hin : node.inbound.get? y = some ⟨j⟩ := (hn.meshed.inbound_get?_iff hnode).2 hj
  obtain ⟨e, he, hee⟩ := getElem?_ends_eq_some_iff.1 hi
  obtain ⟨n₁, h₁, t₁⟩ := modifyEdge_timed hn.meshed (e := ⟨i⟩) he t
  -- the first write leaves every edge where it was, the second one included
  rw [← t₁.ends] at hj
  obtain ⟨e', he', hee'⟩ := getElem?_ends_eq_some_iff.1 hj
  obtain ⟨n₂, h₂, t₂⟩ := modifyEdge_timed t₁.meshed (e := ⟨j⟩) he' t
  refine ⟨n₂, ?_, ?_⟩
  · unfold setTravelTime
    rw [hx, hy]
    simp only [node_eq_ok_iff.2 hnode, Checked.ok_bind, Checked.pure_eq_ok, hout, hin]
    simp [h₁, h₂]
  · rw [hee] at t₁
    rw [hee'] at t₂
    exact t₁.trans t₂

/-- Between ids that are not adjacent no time is set. -/
theorem setTravelTime_apart (hn : n.Coherent) (h : ¬ n.Adjacent a b) (t : UInt32) :
    n.setTravelTime a b t = .ok ⟨.error (.notAdjacent a b), n⟩ := by
  unfold setTravelTime
  cases hx : n.station? a with
  | none => simp
  | some x =>
    cases hy : n.station? b with
    | none => simp
    | some y =>
      obtain ⟨node, hnode, -⟩ := hn.station?_iff.1 hx
      have hxy : (x, y) ∉ n.ends := fun hm => h ⟨x, y, hx, hy, hm⟩
      have hyx : (y, x) ∉ n.ends := fun hm => hxy (hn.swap_mem_ends_iff.1 hm)
      have hout := (hn.meshed.outbound_get?_eq_none_iff hnode).2 hxy
      have hin := (hn.meshed.inbound_get?_eq_none_iff hnode).2 hyx
      simp [node_eq_ok_iff.2 hnode, hout, hin]

end SetTravelTime

/-- Setting a time never fails: it is written between adjacent ids, and refused between others. -/
theorem setTravelTime_cases (hn : n.Coherent) (a b : String) (t : UInt32) :
    (n.Adjacent a b ∧ ∃ x y n', n.station? a = some x ∧ n.station? b = some y ∧
        n.setTravelTime a b t = .ok ⟨.ok (), n'⟩ ∧ Timed n n' [(x, y), (y, x)] t) ∨
      (¬ n.Adjacent a b ∧ n.setTravelTime a b t = .ok ⟨.error (.notAdjacent a b), n⟩) := by
  by_cases h : n.Adjacent a b
  · obtain ⟨x, y, hx, hy, hxy⟩ := id h
    obtain ⟨n', hok, hn'⟩ := setTravelTime_adjacent hn hx hy hxy t
    exact Or.inl ⟨h, x, y, n', hx, hy, hok, hn'⟩
  · exact Or.inr ⟨h, setTravelTime_apart hn h t⟩

/-! ### Booking a passenger -/

/-- The network with the passengers of a station changed by `d`. -/
def booked (n : Network) (s : Handle .station) (d : Int) : Network :=
  { n with nodes := n.nodes.modify s.index fun x => { x with passengers := x.passengers + d } }

theorem record_eq (hn : n.Coherent) (e : PassengerEvent) :
    n.record e = .ok (match n.station? e.station with
      | some s => ⟨.ok (), n.booked s e.delta⟩
      | none => ⟨.error (.stationNotFound e.station), n⟩) := by
  unfold record
  cases hs : n.station? e.station with
  | none => rfl
  | some s =>
    simp only [modifyNode_ok (hn.station?_lt hs), Checked.ok_bind]
    rfl

/-- Booking a passenger changes nothing but the passengers. -/
theorem sansPassengers_booked (s : Handle .station) (d : Int) :
    (n.booked s d).sansPassengers = n.sansPassengers := by
  have hnodes := map_modify_of_forall
    (f := fun x : Node => { x with passengers := x.passengers + d }) (g := Node.sansPassengers)
    (fun _ => rfl) n.nodes s.index
  exact congrArg (fun nodes => { n with nodes := nodes }) hnodes

section SansPassengers

variable (h : n'.sansPassengers = n.sansPassengers)

include h

theorem stationIds_of_sansPassengers : n'.stationIds = n.stationIds := by
  obtain ⟨nodes, rfl, hnodes⟩ := exists_nodes_of_sansPassengers h
  have hids := congrArg (fun xs : Array Node => xs.toList.map (·.id)) hnodes
  simpa [stationIds, Function.comp_def, Node.sansPassengers] using hids

/-- Every station is the one that was there, but for its passengers. -/
theorem Meshed.of_sansPassengers (hn : n.Meshed) : n'.Meshed := by
  obtain ⟨nodes, rfl, hnodes⟩ := exists_nodes_of_sansPassengers h
  have hsize : nodes.size = n.nodes.size := by
    simpa using congrArg Array.size hnodes
  have hold : ∀ (i : Nat) (node : Node), nodes[i]? = some node →
      ∃ old : Node, n.nodes[i]? = some old ∧ node.sansPassengers = old.sansPassengers := by
    intro i node hi
    have hget := congrArg (fun xs : Array Node => xs[i]?) hnodes
    simp only [Array.getElem?_map, hi, Option.map_some] at hget
    obtain ⟨old, hold, he⟩ := Option.map_eq_some_iff.1 hget.symm
    exact ⟨old, hold, he.symm⟩
  constructor
  · exact hn.nodup
  · rw [hsize]
    exact hn.bounded
  · intro x node hx
    obtain ⟨old, hx', he⟩ := hold _ _ hx
    obtain ⟨-, -, hout, -, -⟩ := Node.mk.inj he
    rw [hout]
    exact hn.outbound x old hx'
  · intro x node hx
    obtain ⟨old, hx', he⟩ := hold _ _ hx
    obtain ⟨-, -, -, hin, -⟩ := Node.mk.inj he
    rw [hin]
    exact hn.inbound x old hx'

/-- Whether the tables agree does not depend on the passengers. -/
theorem Coherent.of_sansPassengers (hn : n.Coherent) : n'.Coherent := by
  have hids := stationIds_of_sansPassengers h
  have hmeshed := hn.meshed.of_sansPassengers h
  have hsize : n'.nodes.size = n.nodes.size := by
    rw [← length_stationIds, hids, length_stationIds]
  obtain ⟨nodes, rfl, -⟩ := exists_nodes_of_sansPassengers h
  constructor
  · constructor
    · rw [hids]
      exact hn.stationHandles
    · exact hn.routeHandles
    · exact hmeshed
    · exact hn.ends
    · exact hn.riders
    · exact hn.twins
    · rw [hsize]
      exact hn.stops
  · exact hn.lineHandles
  · exact hn.lineRoutes
  · exact hn.routeLines

end SansPassengers

theorem Coherent.sansPassengers (hn : n.Coherent) : n.sansPassengers.Coherent :=
  hn.of_sansPassengers sansPassengers_sansPassengers

theorem Coherent.booked (hn : n.Coherent) (s : Handle .station) (d : Int) :
    (n.booked s d).Coherent :=
  hn.of_sansPassengers (sansPassengers_booked s d)

end Transit.Network
