import Transit.Proofs.Answers
import Transit.Proofs.Lockstep

/-!
# Histories that are alike

The order in which stations and lines were added shows in the lists that follow it, and nowhere
else.

* `Alike h h'`: the histories bring the same stations and lines, in any order, and set the same
  times last. Networks that hold them give the same verdict on every call (`Records.concur`), and
  the same answer to every query but a few (`Alike.answer_eq`).
* `BehavesLike loose n n'`: whatever requests are made of both networks, the verdicts are the same,
  and so are the answers after them, but for the order in those to `loose` queries.
* `Paired.behavesLike` gets this from the histories.
-/

namespace Transit

/-- The histories bring the same stations and the same lines, in any order, and set the same times
last. -/
structure Alike (h h' : List Call) : Prop where
  stations : (stationsOf h).Perm (stationsOf h')
  lines : (linesOf h).Perm (linesOf h')
  times : ∀ a b, lastTime h a b = lastTime h' a b

/-- No id is brought twice. -/
structure Distinct (h : List Call) : Prop where
  stations : ((stationsOf h).map (·.id)).Nodup
  lines : ((linesOf h).map (·.id)).Nodup
  routes : ((routesOf h).map (·.2.id)).Nodup

namespace Alike

variable {h h' : List Call} {config : Config}

theorem append (hh : Alike h h') (later : List Call) : Alike (h ++ later) (h' ++ later) where
  stations := by
    rw [stationsOf_append, stationsOf_append]
    exact hh.stations.append_right _
  lines := by
    rw [linesOf_append, linesOf_append]
    exact hh.lines.append_right _
  times a b := by rw [lastTime_append, lastTime_append, hh.times]

theorem routes (hh : Alike h h') : (routesOf h).Perm (routesOf h') :=
  hh.lines.flatMap_right _

/-! ### What is read off them -/

theorem stationIn_eq (hh : Alike h h') (hd : Distinct h) (id : String) :
    stationIn h id = stationIn h' id :=
  find?_perm hh.stations hd.stations id

theorem lineIn_eq (hh : Alike h h') (hd : Distinct h) (id : String) : lineIn h id = lineIn h' id :=
  find?_perm hh.lines hd.lines id

theorem routeIn_eq (hh : Alike h h') (hd : Distinct h) (id : String) :
    routeIn h id = routeIn h' id :=
  find?_perm hh.routes hd.routes id

theorem timeIn_eq (hh : Alike h h') (a b : String) : timeIn h a b = timeIn h' a b := by
  rw [timeIn, timeIn, hh.times]

theorem routeTimeIn_eq (hh : Alike h h') (hd : Distinct h) (line route a b : String) :
    routeTimeIn config h line route a b = routeTimeIn config h' line route a b :=
  routeTimeIn_congr (hh.routeIn_eq hd route) hh.timeIn_eq line a b

theorem statisticsIn_eq (hh : Alike h h') :
    statisticsIn h = { statisticsIn h' with passengers := net (eventsOf h) } := by
  have hsteps : (stepsIn h).Perm (stepsIn h') := hh.routes.flatMap_right _
  simp only [statisticsIn, hh.stations.length_eq, hh.lines.length_eq, hh.routes.length_eq,
    (Roster.firsts_perm hsteps).length_eq]

/-- A route serves a station in both histories or in neither. -/
theorem servingIn_perm (hh : Alike h h') (station : String) :
    (servingIn h station).Perm (servingIn h' station) := by
  refine (List.perm_ext_iff_of_nodup (Roster.nodup_firsts _) (Roster.nodup_firsts _)).2 fun id => ?_
  show id ∈ servingIn h station ↔ id ∈ servingIn h' station
  simp only [mem_servingIn, hh.routes.mem_iff]

/-- No other answer depends on the order of stations and lines. -/
theorem answer_eq (hh : Alike h h') (hd : Distinct h) {q : Query}
    (hevents : q.counts = true → eventsOf h = eventsOf h') (hstations : q ≠ .stationIds)
    (hserving : ∀ station, q ≠ .routesServing station) :
    answer config h q = answer config h' q := by
  cases q with
  | config => rfl
  | hasStation id => rw [answer, answer, hh.stationIn_eq hd]
  | hasLine id => rw [answer, answer, hh.lineIn_eq hd]
  | hasRoute id => rw [answer, answer, hh.routeIn_eq hd]
  | stationName id => rw [answer, answer, hh.stationIn_eq hd]
  | lineName id => rw [answer, answer, hh.lineIn_eq hd]
  | routeDirection id => rw [answer, answer, hh.routeIn_eq hd]
  | stationIds => exact absurd rfl hstations
  | routesOfLine id => rw [answer, answer, hh.lineIn_eq hd]
  | routesServing station => exact absurd rfl (hserving station)
  | stopPosition station route => rw [answer, answer, hh.routeIn_eq hd]
  | stopNumber station route => rw [answer, answer, hh.routeIn_eq hd]
  | direction a b route => rw [answer, answer, hh.routeIn_eq hd]
  | travelTime a b => rw [answer, answer, hh.timeIn_eq]
  | routeTime line route a b => rw [answer, answer, hh.routeTimeIn_eq hd]
  | passengerCount station =>
    rw [answer, answer, hh.stationIn_eq hd, balance, balance, hevents rfl]
  | statistics => rw [answer, answer, hh.statisticsIn_eq, hevents rfl]; rfl

end Alike

/-- The histories are alike, with the same events, and what differs shows in `loose` queries only:
the order of the stations in their list, and that of the lines in the routes serving a station. -/
structure AlikeBut (loose : Query → Prop) (h h' : List Call) : Prop extends Alike h h' where
  events : eventsOf h = eventsOf h'
  stationOrder : ¬ loose .stationIds → stationsOf h = stationsOf h'
  lineOrder : ∀ station, ¬ loose (.routesServing station) → linesOf h = linesOf h'

theorem AlikeBut.append {loose : Query → Prop} {h h' : List Call} (hh : AlikeBut loose h h')
    (later : List Call) : AlikeBut loose (h ++ later) (h' ++ later) where
  toAlike := hh.toAlike.append later
  events := by rw [eventsOf_append, eventsOf_append, hh.events]
  stationOrder hq := by rw [stationsOf_append, stationsOf_append, hh.stationOrder hq]
  lineOrder station hq := by rw [linesOf_append, linesOf_append, hh.lineOrder station hq]

namespace Network

variable {n n' : Network} {config : Config} {h h' : List Call} {loose : Query → Prop}

theorem Records.distinct (hn : n.Records config h) : Distinct h where
  stations := hn.stations ▸ hn.coherent.stationHandles.nodup
  lines := hn.lines ▸ hn.coherent.lineHandles.nodup
  routes := hn.routeIds ▸ hn.coherent.routeHandles.nodup

/-- The verdict on a call does not depend on the order of stations and lines. -/
theorem Records.concur (hn : n.Records config h) (hn' : n'.Records config h') (hh : Alike h h')
    (c : Call) : Concur n n' c := by
  have hstations : ∀ id, id ∈ n.stationIds ↔ id ∈ n'.stationIds := by
    intro id
    rw [hn.stations, hn'.stations, (hh.stations.map _).mem_iff]
  cases c with
  | addStation s => exact hstations s.id
  | addLine l =>
    have hlines : ∀ id, id ∈ n.lineIds ↔ id ∈ n'.lineIds := by
      intro id
      rw [hn.lines, hn'.lines, (hh.lines.map _).mem_iff]
    have hroutes : ∀ id, id ∈ n.routeIds ↔ id ∈ n'.routeIds := by
      intro id
      rw [hn.routeIds, hn'.routeIds, (hh.routes.map _).mem_iff]
    unfold Concur violations routeViolations
    simp only [hstations, hlines, hroutes, hn.setup, hn'.setup]
  | setTravelTime a b t =>
    show n.Adjacent a b ↔ n'.Adjacent a b
    rw [hn.adjacent_iff, hn'.adjacent_iff]
    simp only [hh.routes.mem_iff]
  | record e => exact hstations e.station

/-! ### Networks that behave alike -/

/-- The networks answer every query alike, but for the order in the answers to `loose` ones. -/
def AnswersLike (loose : Query → Prop) (n n' : Network) : Prop :=
  ∀ q, n.ask q = n'.ask q ∨ loose q ∧
    ∃ ids ids', n.ask q = .ok (.texts ids) ∧ n'.ask q = .ok (.texts ids') ∧ ids.Perm ids'

/-- The networks give the same verdicts on any requests, one after the other, and answer alike after
them. -/
def BehavesLike (loose : Query → Prop) (n n' : Network) : Prop :=
  ∀ later : List Request, ∃ es m m', n.transcript (later.map .request) = .ok (es, m) ∧
    n'.transcript (later.map .request) = .ok (es, m') ∧ AnswersLike loose m m'

theorem Holds.answersLike (hn : n.Holds config h) (hn' : n'.Holds config h')
    (hh : AlikeBut loose h h') : AnswersLike loose n n' := by
  intro q
  rw [hn.ask_eq, hn'.ask_eq]
  by_cases hstations : q = .stationIds
  · subst hstations
    by_cases hq : loose .stationIds
    · exact .inr ⟨hq, _, _, rfl, rfl, hh.stations.map _⟩
    · exact .inl (by rw [answer, answer, hh.stationOrder hq])
  · by_cases hserving : ∃ station, q = .routesServing station
    · obtain ⟨station, rfl⟩ := hserving
      by_cases hq : loose (.routesServing station)
      · exact .inr ⟨hq, _, _, rfl, rfl, hh.servingIn_perm station⟩
      · exact .inl (by rw [answer, answer, servingIn_congr (hh.lineOrder station hq)])
    · exact .inl (hh.answer_eq hn.distinct (fun _ => hh.events) hstations
        fun station hq => hserving ⟨station, hq⟩)

/-- Networks whose histories are alike stay so under any call. -/
theorem Paired.apply_alike {c : Call} (hn : Paired config (AlikeBut loose) n n') :
    Lockstep (Paired config (AlikeBut loose)) (·.apply c) n n' :=
  hn.apply (fun hm hm' hh => hm.toRecords.concur hm'.toRecords hh.toAlike c) fun hh => hh.append [c]

/-- Networks whose histories are alike behave alike. -/
theorem Paired.behavesLike (hn : Paired config (AlikeBut loose) n n') :
    BehavesLike loose n n' := by
  intro later
  have hserve : ∀ r ∈ later, ∀ m m', Paired config (AlikeBut loose) m m' →
      Lockstep (Paired config (AlikeBut loose)) (·.serve r) m m' := fun _ _ _ _ hm =>
    serve_lockstep (fun _ _ _ _ hk => hk.apply_alike) hm
  obtain ⟨es, m, m', hes, hes', h, h', hm, hm', hh⟩ := transcript_lockstep later hserve hn
  exact ⟨es, m, m', hes, hes', hm.answersLike hm' hh⟩

end Network

end Transit
