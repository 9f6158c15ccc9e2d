import Transit.Proofs.Contents

/-!
# The passenger ledger, exactly

* `net es`: the passengers that some events bring, all stations together.
* `Holds.passengerCount_eq` and `Holds.passengersOf_eq`: a counter is the balance of its station,
  and counters add up to the net of the events at their stations.
* `Network.InRange`: every counter, and every sum of the counters that come first, fits 64 bits. So
  it is as long as fewer than 2⁶³ events are accepted (`Holds.inRange`).
* `session_ledger` says so of every session.
-/

namespace Transit

/-! ### Sums of events -/

/-- The passengers that entered by the events, less those that left. -/
def net (es : List PassengerEvent) : Int :=
  (es.countP (·.passage = .entry) : Int) - es.countP (·.passage = .leave)

/-- Every event moves one passenger. -/
theorem net_bounds (es : List PassengerEvent) :
    -(es.length : Int) ≤ net es ∧ net es ≤ es.length := by
  have hentry : es.countP (·.passage = .entry) ≤ es.length := List.countP_le_length
  have hleave : es.countP (·.passage = .leave) ≤ es.length := List.countP_le_length
  unfold net
  omega

/-- The balance of a station is the net of the events there. -/
theorem balance_eq_net (h : List Call) (station : String) :
    balance h station = net ((eventsOf h).filter (·.station = station)) := by
  have hcount : ∀ passage, (eventsOf h).count ⟨station, passage⟩ =
      ((eventsOf h).filter (·.station = station)).countP (·.passage = passage) := by
    intro passage
    rw [List.countP_filter, List.count]
    refine List.countP_congr fun e _ => ?_
    obtain ⟨at_, passage'⟩ := e
    simp [and_comm]
  rw [balance, net, hcount, hcount]

/-- Events at two kinds of stations, of which no station is both, add up. -/
theorem net_filter_or (es : List PassengerEvent) {p q : String → Bool}
    (hpq : ∀ s, p s = true → q s = false) :
    net (es.filter fun e => p e.station || q e.station) =
      net (es.filter fun e => p e.station) + net (es.filter fun e => q e.station) := by
  have hcount : ∀ passage, (es.filter fun e => p e.station || q e.station).countP
        (·.passage = passage) =
      (es.filter fun e => p e.station).countP (·.passage = passage) +
        (es.filter fun e => q e.station).countP (·.passage = passage) := by
    intro passage
    induction es with
    | nil => rfl
    | cons e es ih =>
      have he := hpq e.station
      cases hp : p e.station <;> cases hq : q e.station
      · simp [hp, hq, ih]
      · simp [hp, hq, ih, List.countP_cons]
        omega
      · simp [hp, hq, ih, List.countP_cons]
        omega
      · -- the station would be of both kinds
        rw [hp, hq] at he
        exact nomatch he rfl
  unfold net
  rw [hcount, hcount]
  omega

/-! ### Sums of counters -/

/-- The sum of the counters of some stations. -/
def passengersOf (xs : List Node) : Int := (xs.map (·.passengers)).foldr (· + ·) 0

/-- The numbers that a signed word of 64 bits can hold. -/
def FitsWord (x : Int) : Prop := -9223372036854775808 ≤ x ∧ x < 9223372036854775808

/-- No counter leaves the range of a word, and neither does the sum of the counters up to any
station. -/
structure Network.InRange (n : Network) : Prop where
  counters : ∀ x ∈ n.nodes.toList, FitsWord x.passengers
  sums : ∀ k, FitsWord (passengersOf (n.nodes.toList.take k))

namespace Network

variable {n : Network} {config : Config} {h : List Call}

/-- A counter is the balance of its station. -/
theorem Holds.passengerCount_eq (hn : n.Holds config h) (id : String) :
    n.passengerCount id =
      .ok (if id ∈ n.stationIds then .ok (balance h id) else .error (.stationNotFound id)) := by
  unfold passengerCount
  cases hs : n.station? id with
  | none => rw [if_neg (hn.coherent.stationHandles.get?_eq_none_iff.1 hs)]; rfl
  | some s =>
    obtain ⟨x, hx, rfl⟩ := hn.coherent.station?_iff.1 hs
    have hmem : x ∈ n.nodes.toList := mem_toList_of_getElem? hx
    rw [if_pos (hn.coherent.mem_stationIds hs), ← hn.passengers x hmem]
    simp only [node_eq_ok_iff.2 hx, Checked.ok_bind]
    rfl

/-- The counters of some stations add up to the net of the events there. -/
theorem Holds.passengersOf_eq (hn : n.Holds config h) {xs : List Node}
    (hxs : List.Sublist xs n.nodes.toList) :
    passengersOf xs = net ((eventsOf h).filter fun e => e.station ∈ xs.map (·.id)) := by
  induction xs with
  | nil => simp [passengersOf, net]
  | cons x xs ih =>
    have hx : x.passengers = net ((eventsOf h).filter (·.station = x.id)) := by
      rw [← balance_eq_net, hn.passengers x (hxs.subset List.mem_cons_self)]
    -- ids are distinct, so the events here are none of those at the other stations
    have hids : List.Sublist ((x :: xs).map (·.id)) n.stationIds := hxs.map (·.id)
    have hnodup : (x.id :: xs.map (·.id)).Nodup := hids.nodup hn.coherent.stationHandles.nodup
    have hsplit := net_filter_or (eventsOf h) (p := fun s => s = x.id)
      (q := fun s => s ∈ xs.map (·.id)) fun s hs => by
        have hid : s = x.id := by simpa using hs
        simpa [hid] using (List.nodup_cons.1 hnodup).1
    have hxs' := ih ((List.sublist_cons_self x xs).trans hxs)
    calc passengersOf (x :: xs)
        = x.passengers + passengersOf xs := rfl
      _ = net ((eventsOf h).filter (·.station = x.id)) +
            net ((eventsOf h).filter fun e => e.station ∈ xs.map (·.id)) := by rw [hx, hxs']
      _ = net ((eventsOf h).filter fun e => e.station ∈ (x :: xs).map (·.id)) := by
          rw [← hsplit]
          simp [List.mem_cons]

/-- All counters together are the net of all events. -/
theorem Holds.statistics_passengers (hn : n.Holds config h) :
    n.statistics.passengers = net (eventsOf h) := by
  have hall : (eventsOf h).filter (fun e => e.station ∈ n.nodes.toList.map (·.id)) = eventsOf h :=
    List.filter_eq_self.2 fun e he => by simpa [stationIds] using hn.events e he
  calc n.statistics.passengers
      = passengersOf n.nodes.toList := rfl
    _ = net (eventsOf h) := by rw [hn.passengersOf_eq (List.Sublist.refl _), hall]

/-- As long as the events fit a word, so do the counters and their sums. -/
theorem Holds.inRange (hn : n.Holds config h)
    (hlt : (eventsOf h).length < 9223372036854775808) : n.InRange := by
  have hfits : ∀ p : PassengerEvent → Bool, FitsWord (net ((eventsOf h).filter p)) := by
    intro p
    have hbounds := net_bounds ((eventsOf h).filter p)
    have hle : ((eventsOf h).filter p).length ≤ (eventsOf h).length := List.length_filter_le _ _
    unfold FitsWord
    omega
  constructor
  · intro x hx
    rw [hn.passengers x hx, balance_eq_net]
    exact hfits _
  · intro k
    rw [hn.passengersOf_eq (List.take_sublist _ _)]
    exact hfits _

/-! ### Over a session -/

/-- Whatever the calls before, the counter of a station is the number of passengers who entered it
less those who left, and the counters add up to the same number over all stations. An event is
booked exactly at a station that was added, and refused elsewhere without a trace; a message of the
feed is the event of an entry when its word is `in`, and of an exit otherwise. As long as fewer than
2⁶³ events are accepted, every counter and every sum of counters fits a word, at any time. -/
theorem session_ledger (config : Config) (requests : List Request) :
    ∃ n h, session { config := config } requests = .ok n ∧
      accepted { config := config } requests = .ok h ∧
      (∀ s ∈ stationsOf h, n.passengerCount s.id = .ok (.ok
        ((eventsOf h).count ⟨s.id, .entry⟩ - (eventsOf h).count ⟨s.id, .leave⟩ : Int))) ∧
      n.statistics.passengers =
        ((eventsOf h).countP (·.passage = .entry) : Int) -
          (eventsOf h).countP (·.passage = .leave) ∧
      (∀ e, ∃ o, n.record e = .ok o ∧
        (o.verdict = .ok () ↔ ∃ s ∈ stationsOf h, s.id = e.station) ∧
        (o.verdict ≠ .ok () → o.verdict = .error (.stationNotFound e.station) ∧ o.network = n)) ∧
      (∀ m, n.serve (.receive m) =
        n.record ⟨m.station, if m.word = "in" then .entry else .leave⟩) ∧
      ((eventsOf h).length < 9223372036854775808 →
        ∀ before after, requests = before ++ after →
          ∃ m, session { config := config } before = .ok m ∧ m.InRange) := by
  obtain ⟨n, h, hok, hh, hn⟩ := exists_contents config requests
  have hknown : ∀ id, id ∈ n.stationIds ↔ ∃ s ∈ stationsOf h, s.id = id := by
    intro id
    rw [hn.stations, List.mem_map]
  refine ⟨n, h, hok, hh, ?_, hn.statistics_passengers, ?_, fun _ => rfl, ?_⟩
  · intro s hs
    rw [hn.passengerCount_eq, if_pos ((hknown s.id).2 ⟨s, hs, rfl⟩)]
    rfl
  · intro e
    rw [← hknown]
    have hrecord := record_eq hn.coherent e
    cases hs : n.station? e.station with
    | none =>
      rw [hs] at hrecord
      refine ⟨_, hrecord, iff_of_false nofun (hn.coherent.stationHandles.get?_eq_none_iff.1 hs), ?_⟩
      intro _
      exact ⟨rfl, rfl⟩
    | some s =>
      rw [hs] at hrecord
      refine ⟨_, hrecord, iff_of_true rfl (hn.coherent.mem_stationIds hs), ?_⟩
      intro hne
      exact absurd rfl hne
  · rintro hlt before after rfl
    obtain ⟨m, h₁, hm, hh₁, hm'⟩ := exists_contents config before
    obtain ⟨-, later, -, hlater, -⟩ := session_replay hm'.coherent after
    -- the events of the part before are among those of the whole
    have hh' := accepted_append hm hh₁ hlater
    rw [hh, Except.ok.injEq] at hh'
    refine ⟨m, hm, hm'.inRange ?_⟩
    rw [hh', eventsOf_append, List.length_append] at hlt
    omega

end Network

end Transit
