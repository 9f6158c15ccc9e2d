import Transit.Proofs.Layouts
import Transit.Proofs.Likeness

/-!
# The order of lines, and that of stations

* `addLines_perm`: lines that are accepted one after the other are so in any order. Afterwards only
  the order of the routes that serve a station can differ.
* `load_perm`: the stations of a layout may be listed in any order, whether or not the layout is
  accepted in the end. Afterwards only the order of the station ids can differ.
-/

namespace Transit

/-! ### Histories that differ in an order -/

theorem alikeBut_lines (h : List Call) {ls ls' : List Line} (hls : ls.Perm ls') :
    AlikeBut (fun q => ∃ station, q = .routesServing station) (h ++ ls.map .addLine)
      (h ++ ls'.map .addLine) := by
  have hstations : ∀ ls : List Line, stationsOf (h ++ ls.map .addLine) = stationsOf h := by
    intro ls
    rw [stationsOf_append]
    simp [stationsOf]
  have hlines : ∀ ls : List Line, linesOf (h ++ ls.map .addLine) = linesOf h ++ ls := by
    intro ls
    rw [linesOf_append]
    simp [linesOf, List.filterMap_map]
  constructor
  · constructor
    · rw [hstations, hstations]
    · rw [hlines, hlines]
      exact hls.append_left _
    · intro a b
      rw [lastTime_append, lastTime_append]
      simp [lastTime, timesOf]
  · rw [eventsOf_append, eventsOf_append]
    simp [eventsOf]
  · intro _
    rw [hstations, hstations]
  · intro station hq
    exact absurd ⟨station, rfl⟩ hq

theorem alikeBut_stations (h : List Call) {ss ss' : List Station} (hss : ss.Perm ss') :
    AlikeBut (· = .stationIds) (h ++ ss.map .addStation) (h ++ ss'.map .addStation) := by
  have hlines : ∀ ss : List Station, linesOf (h ++ ss.map .addStation) = linesOf h := by
    intro ss
    rw [linesOf_append]
    simp [linesOf]
  constructor
  · constructor
    · rw [stationsOf_append, stationsOf_append]
      simpa [stationsOf, List.filterMap_map] using hss.append_left _
    · rw [hlines, hlines]
    · intro a b
      rw [lastTime_append, lastTime_append]
      simp [lastTime, timesOf]
  · rw [eventsOf_append, eventsOf_append]
    simp [eventsOf]
  · intro hq
    exact absurd rfl hq
  · intro _ _
    rw [hlines, hlines]

/-- Whether lines are allowed one after the other does not depend on their order. -/
theorem AllowsAll.perm {config : Config} {h : List Call} {ls ls' : List Line}
    (hls : AllowsAll config h (ls.map .addLine)) (hp : ls.Perm ls') :
    AllowsAll config h (ls'.map .addLine) := by
  have hroutes : (ls.flatMap (·.routes)).Perm (ls'.flatMap (·.routes)) := hp.flatMap_right _
  rw [allowsAll_lines] at hls ⊢
  obtain ⟨hlines, hfresh, hstops, hshape⟩ := hls
  refine ⟨hlines.perm (hp.map _), hfresh.perm (hroutes.map _), ?_, ?_⟩
  · intro r hr
    exact hstops r (hroutes.mem_iff.2 hr)
  · intro strict l hl
    exact hshape strict l (hp.mem_iff.2 hl)

namespace Network

variable {n n₁ : Network}

/-! ### Lines -/

/-- Lines that are accepted one after the other are accepted so in any order. The networks then
answer every query alike, but for the order of the routes serving a station, and so they do after
any further requests, on which they give the same verdicts. -/
theorem addLines_perm (hn : n.Reachable) {ls ls' : List Line}
    (hls : n.attempt (ls.map .addLine) = .ok ⟨.ok (), n₁⟩) (hp : ls.Perm ls') :
    ∃ n₂, n.attempt (ls'.map .addLine) = .ok ⟨.ok (), n₂⟩ ∧
      BehavesLike (fun q => ∃ station, q = .routesServing station) n₁ n₂ := by
  obtain ⟨config, h, hh⟩ := hn.holds
  have hallowed := (hh.attempt_granted_iff.1 ⟨n₁, hls⟩).perm hp
  obtain ⟨n₂, hls'⟩ := hh.attempt_granted_iff.2 hallowed
  have hpaired : Paired config (AlikeBut fun q => ∃ station, q = .routesServing station) n₁ n₂ :=
    ⟨_, _, hh.attempt hls, hh.attempt hls', alikeBut_lines h hp⟩
  exact ⟨n₂, hls', hpaired.behavesLike⟩

/-- Two lines that share their only step, in one order and in the other. -/
theorem addLines_perm_shared :
    ∃ n n₁ n₂,
      session { config := { strictRoutes := true } }
        [.call (.addStation ⟨"a", "A"⟩), .call (.addStation ⟨"b", "B"⟩)] = .ok n ∧
      n.attempt ([⟨"l", "Out", [⟨"r", "out", "l", "a", "b", ["a", "b"]⟩]⟩,
        ⟨"m", "Back", [⟨"s", "in", "m", "b", "a", ["b", "a"]⟩]⟩].map .addLine) =
          .ok ⟨.ok (), n₁⟩ ∧
      n.attempt ([⟨"m", "Back", [⟨"s", "in", "m", "b", "a", ["b", "a"]⟩]⟩,
        ⟨"l", "Out", [⟨"r", "out", "l", "a", "b", ["a", "b"]⟩]⟩].map .addLine) =
          .ok ⟨.ok (), n₂⟩ ∧
      BehavesLike (fun q => ∃ station, q = .routesServing station) n₁ n₂ := by
  have hn : session { config := { strictRoutes := true } }
      [.call (.addStation ⟨"a", "A"⟩), .call (.addStation ⟨"b", "B"⟩)] = .ok _ := rfl
  obtain ⟨n₂, h₂, hlike⟩ := addLines_perm ⟨_, _, hn⟩ rfl
    (List.Perm.swap ⟨"m", "Back", [⟨"s", "in", "m", "b", "a", ["b", "a"]⟩]⟩
      ⟨"l", "Out", [⟨"r", "out", "l", "a", "b", ["a", "b"]⟩]⟩ [])
  exact ⟨_, _, n₂, hn, rfl, h₂, hlike⟩

/-! ### Stations -/

/-- The stations of a layout, all of them new, may be listed in any order: the verdict is the same,
and the networks, also those after a refusal, answer every query alike, but for the order of the
station ids. So they do after any further requests, on which they give the same verdicts. -/
theorem load_perm (hn : n.Reachable) {L : Layout} {ss : List Station}
    (hL : Fresh n.stationIds (L.stations.map (·.id))) (hp : L.stations.Perm ss) :
    ∃ v m m', n.load L = .ok ⟨v, m⟩ ∧ n.load { L with stations := ss } = .ok ⟨v, m'⟩ ∧
      BehavesLike (· = .stationIds) m m' := by
  obtain ⟨config, h, hh⟩ := hn.holds
  have hfresh := hh.stations ▸ hL
  obtain ⟨n₁, h₁⟩ := hh.attempt_granted_iff.2 (allowsAll_stations L.stations |>.2 hfresh)
  obtain ⟨n₂, h₂⟩ := hh.attempt_granted_iff.2
    (allowsAll_stations ss |>.2 (hfresh.perm (hp.map _)))
  have hpaired : Paired config (AlikeBut (· = .stationIds)) n₁ n₂ :=
    ⟨_, _, hh.attempt h₁, hh.attempt h₂, alikeBut_stations h hp⟩
  -- from there the lines and the times are tried in lockstep
  obtain ⟨v, m, m', hm, hm', hpaired'⟩ :=
    attempt_lockstep { L with stations := [] }.calls (fun _ _ _ _ hk => hk.apply_alike) hpaired
  refine ⟨v, m, m', ?_, ?_, hpaired'.behavesLike⟩
  · rw [load_eq, h₁]
    exact hm
  · rw [load_eq, h₂]
    exact hm'

/-- A layout that is refused for its travel time, after its two stations in either order. -/
theorem load_perm_refused :
    ∃ m m',
      load {} ⟨[⟨"a", "A"⟩, ⟨"b", "B"⟩], [⟨"l", "Line", [⟨"r", "out", "l", "a", "b", ["a", "b"]⟩]⟩],
        [⟨"a", "c", 5⟩]⟩ = .ok ⟨.error (.notAdjacent "a" "c"), m⟩ ∧
      load {} ⟨[⟨"b", "B"⟩, ⟨"a", "A"⟩], [⟨"l", "Line", [⟨"r", "out", "l", "a", "b", ["a", "b"]⟩]⟩],
        [⟨"a", "c", 5⟩]⟩ = .ok ⟨.error (.notAdjacent "a" "c"), m'⟩ ∧
      BehavesLike (· = .stationIds) m m' := by
  have hload : load {} ⟨[⟨"a", "A"⟩, ⟨"b", "B"⟩],
      [⟨"l", "Line", [⟨"r", "out", "l", "a", "b", ["a", "b"]⟩]⟩], [⟨"a", "c", 5⟩]⟩ =
      .ok ⟨.error (.notAdjacent "a" "c"), _⟩ := rfl
  obtain ⟨v, m, m', hm, hm', hlike⟩ := load_perm (n := {}) ⟨{}, [], rfl⟩
    (L := ⟨[⟨"a", "A"⟩, ⟨"b", "B"⟩],
      [⟨"l", "Line", [⟨"r", "out", "l", "a", "b", ["a", "b"]⟩]⟩], [⟨"a", "c", 5⟩]⟩)
    ⟨by decide, by decide⟩ (List.Perm.swap _ _ [])
  rw [hload] at hm
  cases hm
  exact ⟨_, m', hload, hm', hlike⟩

end Network

end Transit
