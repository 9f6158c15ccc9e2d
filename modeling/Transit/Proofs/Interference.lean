import Transit.Proofs.Likeness

/-!
# Passengers and lines do not interfere

Passengers are counted at stations, and lines and travel times lead between them, but neither shows
in the other.

* `Paired.graph_run`: a run without its passenger events goes like the run with them, but for the
  numbers of passengers.
* `Paired.ledger_run`: a run without its calls about lines and travel times goes like the run with
  them in all that tells of passengers.
* `interleavings`: so calls of the one kind and calls of the other may be made in any order.
* `transcript_noninterference` says so of every run.
-/

namespace Transit

/-- The histories bring the same stations in the same order, and the same events. -/
structure SameLedger (h h' : List Call) : Prop where
  stations : stationsOf h = stationsOf h'
  events : eventsOf h = eventsOf h'

section Histories

variable {h h' : List Call} {config : Config}

/-! ### Everything but the passengers -/

theorem SameGraph.alike (hh : SameGraph h h') : Alike h h' :=
  ⟨.of_eq hh.stations, .of_eq hh.lines, hh.times⟩

theorem SameGraph.append (hh : SameGraph h h') (later : List Call) :
    SameGraph (h ++ later) (h' ++ later) where
  stations := by rw [stationsOf_append, stationsOf_append, hh.stations]
  lines := by rw [linesOf_append, linesOf_append, hh.lines]
  times a b := by rw [lastTime_append, lastTime_append, hh.times]

/-- Events do not show. -/
theorem SameGraph.record (hh : SameGraph h h') (e : PassengerEvent) :
    SameGraph (h ++ [.record e]) h' where
  stations := by
    rw [stationsOf_append, ← hh.stations]
    exact List.append_nil _
  lines := by
    rw [linesOf_append, ← hh.lines]
    exact List.append_nil _
  times a b := by
    rw [lastTime_append, ← hh.times]
    rfl

/-- Answers depend on the events in their numbers of passengers only. -/
theorem SameGraph.answer_eq (hh : SameGraph h h') (hd : Distinct h) (q : Query) :
    (answer config h q).map Answer.sansPassengers =
      (answer config h' q).map Answer.sansPassengers := by
  by_cases hcounts : q.counts = true
  · cases q with
    | passengerCount station =>
      rw [answer, answer, hh.alike.stationIn_eq hd]
      split <;> rfl
    | statistics =>
      rw [answer, answer, hh.alike.statisticsIn_eq]
      rfl
    | _ => cases hcounts
  · by_cases hstations : q = .stationIds
    · rw [hstations, answer, answer, hh.stations]
    · by_cases hserving : ∃ station, q = .routesServing station
      · obtain ⟨station, rfl⟩ := hserving
        rw [answer, answer, servingIn_congr hh.lines]
      · rw [hh.alike.answer_eq hd (fun h => absurd h hcounts) hstations fun station hq =>
          hserving ⟨station, hq⟩]

/-! ### Nothing but the passengers -/

theorem SameLedger.symm (hh : SameLedger h h') : SameLedger h' h :=
  ⟨hh.stations.symm, hh.events.symm⟩

theorem SameLedger.append (hh : SameLedger h h') (later : List Call) :
    SameLedger (h ++ later) (h' ++ later) where
  stations := by rw [stationsOf_append, stationsOf_append, hh.stations]
  events := by rw [eventsOf_append, eventsOf_append, hh.events]

/-- Calls about lines and times do not show. -/
theorem SameLedger.append_left (hh : SameLedger h h') {c : Call} (hstations : stationsOf [c] = [])
    (hevents : eventsOf [c] = []) : SameLedger (h ++ [c]) h' where
  stations := by rw [stationsOf_append, hstations, List.append_nil, hh.stations]
  events := by rw [eventsOf_append, hevents, List.append_nil, hh.events]

/-- What answers tell of passengers depends on the stations and the events only. -/
theorem SameLedger.answer_eq (hh : SameLedger h h') {q : Query} (hq : q.counts = true) :
    (answer config h q).map Answer.onlyPassengers =
      (answer config h' q).map Answer.onlyPassengers := by
  cases q with
  | passengerCount station =>
    rw [answer, answer, stationIn, stationIn, hh.stations, balance, balance, hh.events]
  | statistics =>
    rw [answer, answer, statisticsIn, statisticsIn, hh.events]
    rfl
  | _ => cases hq

end Histories

namespace Network

variable {n n' : Network} {config : Config} {h : List Call}

/-! ### Runs without passenger events -/

theorem Paired.sansPassengers_eq (hn : Paired config SameGraph n n') :
    n.sansPassengers = n'.sansPassengers := by
  obtain ⟨h, h', hn, hn', hh⟩ := hn
  exact hn.sansPassengers_eq hn' hh

/-- Every request is served alike, whatever the passengers. -/
theorem Paired.serve_graph (hn : Paired config SameGraph n n') (r : Request) :
    Lockstep (Paired config SameGraph) (·.serve r) n n' :=
  serve_lockstep (fun c _ _ _ hm => hm.apply
    (fun hk hk' hh => hk.toRecords.concur hk'.toRecords hh.alike c) fun hh => hh.append [c]) hn

/-- A request that books passengers leaves everything else as it is. -/
theorem Paired.drop_books (hn : Paired config SameGraph n n') {a : Action} (ha : a.books = true) :
    ∃ reply m, n.act a = .ok (reply, m) ∧ Paired config SameGraph m n' := by
  have hrecord : ∀ e, ∃ o, n.record e = .ok o ∧ Paired config SameGraph o.network n' := fun e =>
    hn.apply_left (c := .record e) fun hh => hh.record e
  cases a with
  | query q => cases ha
  | request r =>
    cases r with
    | load l => cases ha
    | receive m =>
      obtain ⟨o, ho, hm⟩ := hrecord m.event
      exact ⟨_, _, act_request ho, hm⟩
    | call c =>
      cases c with
      | record e =>
        obtain ⟨o, ho, hm⟩ := hrecord e
        exact ⟨_, _, act_request ho, hm⟩
      | _ => cases ha

/-- A run goes on without its passenger events as it does with them, in all replies but for the
numbers of passengers. -/
theorem Paired.graph_run {β : Type} (watch : Action → Bool) (view : Exchange → β)
    (hwatch : ∀ a, watch a = true → a.books = false)
    (hview : ∀ q r r', watch (.query q) = true →
      r.map Answer.sansPassengers = r'.map Answer.sansPassengers →
      view ⟨.query q, .answer r⟩ = view ⟨.query q, .answer r'⟩)
    (hn : Paired config SameGraph n n') (as : List Action) :
    ∃ es es' m m', n.transcript as = .ok (es, m) ∧
      n'.transcript (as.filter fun a => !a.books) = .ok (es', m') ∧
      (es.filter (watch ·.action)).map view = (es'.filter (watch ·.action)).map view ∧
      Paired config SameGraph m m' := by
  refine transcript_filter (fun a ha => by rw [hwatch a ha]; rfl) ?_ ?_ hn as
  · intro m m' a hm ha
    exact hm.drop_books (by simpa using ha)
  · intro m m' a hm ha
    cases a with
    | request r =>
      obtain ⟨v, k, k', hk, hk', hR⟩ := hm.serve_graph r
      exact ⟨_, _, k, k', act_request hk, act_request hk', fun _ => rfl, hR⟩
    | query q =>
      obtain ⟨h, h', hk, hk', hh⟩ := id hm
      refine ⟨_, _, m, m', rfl, rfl, fun hq => hview q _ _ hq ?_, hm⟩
      rw [hk.ask_eq, hk'.ask_eq, hh.answer_eq hk.distinct]

/-! ### Runs without lines and travel times -/

theorem Paired.counters_eq (hn : Paired config SameLedger n n') : n.counters = n'.counters := by
  obtain ⟨h, h', hn, hn', hh⟩ := hn
  rw [hn.counters_eq, hn'.counters_eq, hh.stations]
  simp only [balance, hh.events]

theorem Paired.passengers_eq (hn : Paired config SameLedger n n') :
    n.statistics.passengers = n'.statistics.passengers := by
  obtain ⟨h, h', hn, hn', hh⟩ := hn
  rw [hn.statistics_passengers, hn'.statistics_passengers, hh.events]

/-- What is asked of the stations only is granted or refused alike, whatever the lines. -/
theorem Paired.apply_ledger (hn : Paired config SameLedger n n') {c : Call}
    (hc : ∀ m m' : Network, m.stationIds = m'.stationIds → Concur m m' c) :
    Lockstep (Paired config SameLedger) (·.apply c) n n' := by
  refine hn.apply (fun hm hm' hh => hc _ _ ?_) fun hh => hh.append [c]
  rw [hm.stations, hm'.stations, hh.stations]

theorem concur_addStation (hstations : n.stationIds = n'.stationIds) (s : Station) :
    Concur n n' (.addStation s) := by
  show s.id ∈ n.stationIds ↔ s.id ∈ n'.stationIds
  rw [hstations]

theorem concur_record (hstations : n.stationIds = n'.stationIds) (e : PassengerEvent) :
    Concur n n' (.record e) := by
  show e.station ∈ n.stationIds ↔ e.station ∈ n'.stationIds
  rw [hstations]

/-- Of a layout, both networks take the same stations. What they take besides does not show in the
ledger, even where one of them refuses more of it than the other. -/
theorem Paired.load_ledger (hn : Paired config SameLedger n n') (L : Layout) :
    ∃ o o', n.load L = .ok o ∧ n'.load L = .ok o' ∧
      Paired config SameLedger o.network o'.network := by
  have hunseen : ∀ c ∈ { L with stations := [] }.calls, ∀ {h h'}, SameLedger h h' →
      SameLedger (h ++ [c]) h' := by
    intro c hc h h' hh
    rcases List.mem_append.1 hc with hc | hc
    · obtain ⟨l, -, rfl⟩ := List.mem_map.1 hc
      exact hh.append_left rfl rfl
    · obtain ⟨t, -, rfl⟩ := List.mem_map.1 hc
      exact hh.append_left rfl rfl
  obtain ⟨v, m, m', hm, hm', hp⟩ := attempt_lockstep (L.stations.map .addStation)
    (fun c hc _ _ hk => by
      obtain ⟨s, -, rfl⟩ := List.mem_map.1 hc
      exact hk.apply_ledger fun _ _ hs => concur_addStation hs s) hn
  rw [load_eq n, load_eq n']
  simp only [hm, hm', Checked.ok_bind]
  cases v with
  | error e => exact ⟨_, _, rfl, rfl, hp⟩
  | ok _ =>
    obtain ⟨o, ho, hp⟩ := hp.attempt_left hunseen
    obtain ⟨o', ho', hp⟩ := (hp.symm fun hh => hh.symm).attempt_left hunseen
    exact ⟨o, o', ho, ho', hp.symm fun hh => hh.symm⟩

/-- A request about a line or a time leaves the ledger as it is. -/
theorem Paired.drop_builds (hn : Paired config SameLedger n n') {a : Action}
    (ha : a.builds = true) :
    ∃ reply m, n.act a = .ok (reply, m) ∧ Paired config SameLedger m n' := by
  cases a with
  | query q => cases ha
  | request r =>
    cases r with
    | load l => cases ha
    | receive m => cases ha
    | call c =>
      cases c with
      | addLine l =>
        obtain ⟨o, ho, hm⟩ := hn.apply_left (c := .addLine l) fun hh => hh.append_left rfl rfl
        exact ⟨_, _, act_request ho, hm⟩
      | setTravelTime a b t =>
        obtain ⟨o, ho, hm⟩ := hn.apply_left (c := .setTravelTime a b t) fun hh =>
          hh.append_left rfl rfl
        exact ⟨_, _, act_request ho, hm⟩
      | _ => cases ha

/-- A run goes on without its calls about lines and times as it does with them, in all replies that
tell of passengers. -/
theorem Paired.ledger_run {β : Type} (watch : Action → Bool) (view : Exchange → β)
    (hwatch : ∀ a, watch a = true → a.counts = true)
    (hview : ∀ q r r', watch (.query q) = true →
      r.map Answer.onlyPassengers = r'.map Answer.onlyPassengers →
      view ⟨.query q, .answer r⟩ = view ⟨.query q, .answer r'⟩)
    (hn : Paired config SameLedger n n') (as : List Action) :
    ∃ es es' m m', n.transcript as = .ok (es, m) ∧
      n'.transcript (as.filter fun a => !a.builds) = .ok (es', m') ∧
      (es.filter (watch ·.action)).map view = (es'.filter (watch ·.action)).map view ∧
      Paired config SameLedger m m' := by
  have hlockstep : ∀ {m m'} r, Lockstep (Paired config SameLedger) (·.serve r) m m' →
      ∃ reply reply' k k', m.act (.request r) = .ok (reply, k) ∧
        m'.act (.request r) = .ok (reply', k') ∧
        (watch (.request r) = true → view ⟨.request r, reply⟩ = view ⟨.request r, reply'⟩) ∧
        Paired config SameLedger k k' := by
    rintro m m' r ⟨v, k, k', hk, hk', hp⟩
    exact ⟨_, _, k, k', act_request hk, act_request hk', fun _ => rfl, hp⟩
  refine transcript_filter (fun a ha => ?_) ?_ ?_ hn as
  · cases hb : a.builds with
    | false => rfl
    | true => exact nomatch (hwatch a ha).symm.trans (Action.counts_of_builds hb)
  · intro m m' a hm ha
    exact hm.drop_builds (by simpa using ha)
  · intro m m' a hm ha
    cases a with
    | query q =>
      obtain ⟨h, h', hk, hk', hh⟩ := id hm
      refine ⟨_, _, m, m', rfl, rfl, fun hq => hview q _ _ hq ?_, hm⟩
      rw [hk.ask_eq, hk'.ask_eq, hh.answer_eq (hwatch _ hq)]
    | request r =>
      cases r with
      | receive e =>
        exact hlockstep (.receive e) (hm.apply_ledger fun _ _ hs => concur_record hs e.event)
      | load L =>
        obtain ⟨o, o', ho, ho', hp⟩ := hm.load_ledger L
        exact ⟨_, _, o.network, o'.network, act_request ho, act_request ho',
          fun hq => (nomatch hwatch _ hq), hp⟩
      | call c =>
        cases c with
        | addStation s =>
          exact hlockstep (.call (.addStation s))
            (hm.apply_ledger fun _ _ hs => concur_addStation hs s)
        | record e =>
          exact hlockstep (.call (.record e)) (hm.apply_ledger fun _ _ hs => concur_record hs e)
        | _ => cases ha

/-! ### Two clients -/

/-- When one client makes calls about lines and times and another one about passengers, each gets
the replies that it would get alone, and leaves its part of the network as it would alone. -/
theorem transcript_alone (hn : n.Holds config h) {bs : List Action}
    (hbs : ∀ b ∈ bs, b.builds = true ∨ b.books = true) :
    ∃ ds m p q, n.transcript bs = .ok (ds, m) ∧
      n.transcript (bs.filter (·.builds)) = .ok (ds.filter (·.action.builds), p) ∧
      n.transcript (bs.filter (·.books)) = .ok (ds.filter (·.action.books), q) ∧
      m.sansPassengers = p.sansPassengers ∧ m.counters = q.counters := by
  have hgraph : Paired config SameGraph n n := ⟨h, h, hn, hn, rfl, rfl, fun _ _ => rfl⟩
  have hledger : Paired config SameLedger n n := ⟨h, h, hn, hn, rfl, rfl⟩
  have hbuilds : (bs.filter fun b => !b.books) = bs.filter (·.builds) :=
    List.filter_congr fun b hb => by rw [Action.books_eq_not_builds (hbs b hb), Bool.not_not]
  have hbooks : (bs.filter fun b => !b.builds) = bs.filter (·.books) :=
    List.filter_congr fun b hb => (Action.books_eq_not_builds (hbs b hb)).symm
  obtain ⟨ds, es, m, p, hds, hes, hview, hgraph⟩ := hgraph.graph_run (·.builds) id
    (fun _ => Action.books_of_builds) (fun _ _ _ => nofun) bs
  obtain ⟨ds', fs, m', q, hds', hfs, hview', hledger⟩ := hledger.ledger_run (·.books) id
    (fun _ => Action.counts_of_books) (fun _ _ _ => nofun) bs
  rw [hds] at hds'
  cases hds'
  rw [hbuilds] at hes
  rw [hbooks] at hfs
  rw [List.map_id, List.map_id] at hview hview'
  refine ⟨ds, m, p, q, hds, ?_, ?_, hgraph.sansPassengers_eq, hledger.counters_eq⟩
  · rw [hview, filter_transcript hes, hes]
  · rw [hview', filter_transcript hfs, hfs]

/-- Calls about lines and times and calls about passengers may be made in any order, each kind in
its own: every reply is the same, and so is the network in the end. -/
theorem interleavings (hn : n.Holds config h) {bs bs' : List Action}
    (hbs : ∀ b ∈ bs, b.builds = true ∨ b.books = true)
    (hbs' : ∀ b ∈ bs', b.builds = true ∨ b.books = true)
    (hbuilds : bs.filter (·.builds) = bs'.filter (·.builds))
    (hbooks : bs.filter (·.books) = bs'.filter (·.books)) :
    ∃ ds ds' m, n.transcript bs = .ok (ds, m) ∧ n.transcript bs' = .ok (ds', m) ∧
      ds.filter (·.action.builds) = ds'.filter (·.action.builds) ∧
      ds.filter (·.action.books) = ds'.filter (·.action.books) := by
  obtain ⟨ds, m, p, q, hds, hp, hq, hsans, hcounters⟩ := transcript_alone hn hbs
  obtain ⟨ds', m', p', q', hds', hp', hq', hsans', hcounters'⟩ := transcript_alone hn hbs'
  rw [hbuilds, hp', Except.ok.injEq, Prod.mk.injEq] at hp
  rw [hbooks, hq', Except.ok.injEq, Prod.mk.injEq] at hq
  obtain ⟨hreplies, rfl⟩ := hp
  obtain ⟨hreplies', rfl⟩ := hq
  have hm : m' = m :=
    eq_of_sansPassengers (hsans'.trans hsans.symm) (hcounters'.trans hcounters.symm)
  exact ⟨ds, ds', m, hds, hm ▸ hds', hreplies.symm, hreplies'.symm⟩

/-- In any run of requests and queries, passengers and lines do not interfere.

Without its passenger events, the run gets the same replies, but for the numbers of passengers, and
leaves the same network, but for the counters. Without its calls about lines and travel times, it
gets the same verdicts on events and the same numbers of passengers, and leaves the same counters.
So afterwards, calls of the one kind and calls of the other may be made in any order: every verdict
and the network in the end are the same. -/
theorem transcript_noninterference (config : Config) (as : List Action) :
    ∃ es n, transcript { config := config } as = .ok (es, n) ∧
      (∃ es' n', transcript { config := config } (as.filter fun a => !a.books) = .ok (es', n') ∧
        es'.map (·.mapAnswer .sansPassengers) =
          (es.filter fun e => !e.action.books).map (·.mapAnswer .sansPassengers) ∧
        n'.sansPassengers = n.sansPassengers) ∧
      (∃ es' n', transcript { config := config } (as.filter fun a => !a.builds) = .ok (es', n') ∧
        (es'.filter (·.action.counts)).map (·.mapAnswer .onlyPassengers) =
          (es.filter (·.action.counts)).map (·.mapAnswer .onlyPassengers) ∧
        n'.counters = n.counters ∧ n'.statistics.passengers = n.statistics.passengers) ∧
      ∀ bs bs', (∀ b ∈ bs, b.builds = true ∨ b.books = true) →
        (∀ b ∈ bs', b.builds = true ∨ b.books = true) →
        bs.filter (·.builds) = bs'.filter (·.builds) →
        bs.filter (·.books) = bs'.filter (·.books) →
        ∃ ds ds' m, n.transcript bs = .ok (ds, m) ∧ n.transcript bs' = .ok (ds', m) ∧
          ds.filter (·.action.builds) = ds'.filter (·.action.builds) ∧
          ds.filter (·.action.books) = ds'.filter (·.action.books) := by
  have hgraph : Paired config SameGraph { config := config } { config := config } :=
    ⟨[], [], .empty config, .empty config, rfl, rfl, fun _ _ => rfl⟩
  have hledger : Paired config SameLedger { config := config } { config := config } :=
    ⟨[], [], .empty config, .empty config, rfl, rfl⟩
  obtain ⟨es, es₁, n, n₁, hes, hes₁, hview₁, hgraph⟩ := hgraph.graph_run (fun a => !a.books)
    (·.mapAnswer .sansPassengers) (fun a ha => by simpa using ha)
    (fun q r r' _ hr => by simp only [Exchange.mapAnswer, hr]) as
  obtain ⟨es', es₂, n', n₂, hes', hes₂, hview₂, hledger⟩ := hledger.ledger_run (·.counts)
    (·.mapAnswer .onlyPassengers) (fun _ ha => ha)
    (fun q r r' _ hr => by simp only [Exchange.mapAnswer, hr]) as
  rw [hes] at hes'
  cases hes'
  refine ⟨es, n, hes, ⟨es₁, n₁, hes₁, ?_, hgraph.sansPassengers_eq.symm⟩,
    ⟨es₂, n₂, hes₂, hview₂.symm, hledger.counters_eq.symm, hledger.passengers_eq.symm⟩, ?_⟩
  · rw [hview₁, filter_transcript hes₁]
  · obtain ⟨h, -, hn, -, -⟩ := hgraph
    intro bs bs' hbs hbs' hbuilds hbooks
    exact interleavings hn hbs hbs' hbuilds hbooks

end Network

end Transit
