import Transit.Proofs.Answers
import Transit.Proofs.Lockstep
import Transit.Proofs.Verdicts

/-!
# Networks under other settings

Of its settings, a network looks at the strictness in the verdict on a line, and at the policy in the
time along a route. Nothing that it keeps depends on them.

* `SameHistory config config' n n'`: the networks hold one history, each under its own settings.
  They are equal but for the settings (`SameHistory.eq`), and any call gets the same verdict from
  both, when its lines do not offend the one only (`SameHistory.apply`).
* `session_strictness`: strict rules filter the calls, and do nothing else.
-/

namespace Transit

/-! ### What a history allows -/

section Histories

variable {config config' : Config} {h cs : List Call} {c : Call}

/-- What is allowed under strict rules is so without them. -/
theorem Allows.relax (hstrict : config'.strictRoutes = true → config.strictRoutes = true)
    (hc : Allows config h c) : Allows config' h c := by
  cases c with
  | addLine l => exact { hc with well_formed := fun hs => hc.well_formed (hstrict hs) }
  | _ => exact hc

theorem AllowsAll.relax (hstrict : config'.strictRoutes = true → config.strictRoutes = true)
    (hcs : AllowsAll config h cs) : AllowsAll config' h cs := by
  induction cs generalizing h with
  | nil => trivial
  | cons c cs ih => exact ⟨hcs.1.relax hstrict, ih hcs.2⟩

/-- Answers depend on the policy only where they tell the settings, or a time along a route. -/
theorem answer_congr {q : Query} (hconfig : q ≠ .config)
    (hinbound : config.inbound = config'.inbound ∨ ∀ line route a b, q ≠ .routeTime line route a b) :
    answer config h q = answer config' h q := by
  cases q with
  | config => exact absurd rfl hconfig
  | routeTime line route a b =>
    have hsame := hinbound.resolve_right fun hne => hne line route a b rfl
    rw [answer, answer, routeTimeIn, routeTimeIn, hsame]
  | _ => rfl

end Histories

namespace Network

variable {n n' : Network} {config config' : Config} {h : List Call} {l : Line} {c : Call}

/-! ### Other settings for a network -/

theorem Coherent.reconfigure (hn : n.Coherent) (config : Config) :
    Coherent { n with config := config } := by
  constructor
  · constructor
    · exact hn.stationHandles
    · exact hn.routeHandles
    · exact ⟨hn.meshed.nodup, hn.meshed.bounded, hn.meshed.outbound, hn.meshed.inbound⟩
    · exact hn.ends
    · exact hn.riders
    · exact hn.twins
    · exact hn.stops
  · exact hn.lineHandles
  · exact hn.lineRoutes
  · exact hn.routeLines

/-- A network holds its history under any settings that the lines of the history do not offend. -/
theorem Holds.reconfigure (hn : n.Holds config h)
    (hshape : config'.strictRoutes = true → ∀ l ∈ linesOf h,
      l.check = .ok () ∧ ∀ r ∈ l.routes, r.check = .ok ()) :
    Holds { n with config := config' } config' h where
  coherent := hn.coherent.reconfigure config'
  setup := rfl
  stations := hn.stations
  routes := hn.routes.imp fun _ _ hx => ⟨hx.id, hx.direction, hx.line, hx.stops⟩
  lines := hn.lines
  times := hn.times
  well_formed := hshape
  names := hn.names
  passengers := hn.passengers
  events := hn.events
  lineTable := hn.lineTable.imp fun _ _ hx => ⟨hx.id, hx.name, hx.routes⟩

theorem shapeViolations_ok {δ : Type} (strict : Bool) (report : δ → NetworkError) :
    shapeViolations strict (.ok ()) report = [] := by
  cases strict <;> rfl

/-- The settings count in the reasons to refuse a line when they differ in strictness and the line
is of the wrong shape. -/
theorem violations_reconfigure
    (hl : config.strictRoutes = n.config.strictRoutes ∨
      (l.check = .ok () ∧ ∀ r ∈ l.routes, r.check = .ok ())) :
    violations { n with config := config } l = n.violations l := by
  rcases hl with hstrict | ⟨hl, hr⟩
  · unfold violations routeViolations
    simp only [hstrict]
    rfl
  · have hroute : ∀ earlier, ∀ r ∈ l.routes,
        routeViolations { n with config := config } earlier r = n.routeViolations earlier r := by
      intro earlier r hmem
      unfold routeViolations
      rw [hr r hmem, shapeViolations_ok, shapeViolations_ok]
      rfl
    unfold violations
    rw [hl, shapeViolations_ok, shapeViolations_ok]
    refine congrArg _ (List.flatMap_congr ?_)
    rintro ⟨r, i⟩ hmem
    exact hroute _ r (List.mem_of_getElem? (List.mem_zipIdx_iff_getElem?.1 hmem))

/-! ### One history under two settings -/

/-- The networks hold one history, each under its own settings. -/
def SameHistory (config config' : Config) (n n' : Network) : Prop :=
  ∃ h, n.Holds config h ∧ n'.Holds config' h

theorem SameHistory.empty (config config' : Config) :
    SameHistory config config' { config := config } { config := config' } :=
  ⟨[], .empty config, .empty config'⟩

/-- One history makes one network, but for the settings. -/
theorem SameHistory.eq (hn : SameHistory config config' n n') : n' = { n with config := config' } := by
  obtain ⟨h, hn, hn'⟩ := hn
  exact hn'.unique (hn.reconfigure hn'.well_formed) ⟨rfl, rfl, fun _ _ => rfl, fun _ => rfl⟩

/-- Both networks give the same verdict on a call, unless it adds a line of the wrong shape and they
differ in strictness. -/
theorem SameHistory.apply (hn : SameHistory config config' n n')
    (hc : config'.strictRoutes = config.strictRoutes ∨ ∀ l, c = .addLine l →
      l.check = .ok () ∧ ∀ r ∈ l.routes, r.check = .ok ()) :
    Lockstep (SameHistory config config') (·.apply c) n n' := by
  have hn' := hn.eq
  obtain ⟨h, hh, hh'⟩ := hn
  have hconcur : Concur n n' c := by
    subst hn'
    cases c with
    | addLine l =>
      rw [← hh.setup] at hc
      exact (violations_reconfigure (hc.imp_right fun hl => hl l rfl)).symm
    | _ => exact Iff.rfl
  obtain ⟨v, m, m', hm, hm'⟩ := hconcur.verdict hh.coherent hh'.coherent
  exact ⟨v, m, m', hm, hm', _, hh.apply hm, hh'.apply hm'⟩

theorem SameHistory.transcript (hn : SameHistory config config' n n') (rs : List Request)
    (hrs : config'.strictRoutes = config.strictRoutes ∨ ∀ r ∈ rs, ∀ l, Call.addLine l ∈ r.calls →
      l.check = .ok () ∧ ∀ route ∈ l.routes, route.check = .ok ()) :
    ∃ es m m', n.transcript (rs.map .request) = .ok (es, m) ∧
      n'.transcript (rs.map .request) = .ok (es, m') ∧ SameHistory config config' m m' :=
  transcript_lockstep rs (fun r hr _ _ hm => serve_lockstep (fun _ hc _ _ hk =>
    hk.apply (hrs.imp_right fun hl l he => hl r hr l (he ▸ hc))) hm) hn

/-- Both networks answer alike, but for queries about the settings. -/
theorem SameHistory.ask_eq (hn : SameHistory config config' n n') {q : Query} (hconfig : q ≠ .config)
    (hinbound : config.inbound = config'.inbound ∨ ∀ line route a b, q ≠ .routeTime line route a b) :
    n'.ask q = n.ask q := by
  obtain ⟨h, hn, hn'⟩ := hn
  rw [hn.ask_eq, hn'.ask_eq, answer_congr hconfig hinbound]

/-! ### Strict rules -/

/-- Strict rules filter the calls and do nothing else. The calls that a session under strict rules
accepts are all accepted without them, and make the same network but for the flag, so that every
query but that for the settings is answered alike. And as long as all lines that are submitted are
of the right shape, the two networks give the same verdict on every request, and are the same but
for the flag in the end. -/
theorem session_strictness (inbound : InboundPolicy) (requests : List Request) :
    ∃ n h, session { config := ⟨inbound, true⟩ } requests = .ok n ∧
      accepted { config := ⟨inbound, true⟩ } requests = .ok h ∧
      (∃ n', attempt { config := ⟨inbound, false⟩ } h = .ok ⟨.ok (), n'⟩ ∧
        n' = { n with config := ⟨inbound, false⟩ } ∧ ∀ q, q ≠ .config → n'.ask q = n.ask q) ∧
      ((∀ r ∈ requests, ∀ l, Call.addLine l ∈ r.calls →
          l.check = .ok () ∧ ∀ route ∈ l.routes, route.check = .ok ()) →
        ∃ es n', transcript { config := ⟨inbound, true⟩ } (requests.map .request) = .ok (es, n) ∧
          transcript { config := ⟨inbound, false⟩ } (requests.map .request) = .ok (es, n') ∧
          n' = { n with config := ⟨inbound, false⟩ } ∧
          ∀ q, q ≠ .config → n'.ask q = n.ask q) := by
  obtain ⟨n, h, hok, hh, hreplay⟩ := session_replay (.empty ⟨inbound, true⟩) requests
  have hn : n.Holds ⟨inbound, true⟩ h := (Holds.empty ⟨inbound, true⟩).attempt hreplay
  refine ⟨n, h, hok, hh, ?_, ?_⟩
  · have hallowed := (Records.empty ⟨inbound, true⟩).attempt_granted_iff.1 ⟨n, hreplay⟩
    obtain ⟨n', hn'⟩ := (Records.empty ⟨inbound, false⟩).attempt_granted_iff.2
      (hallowed.relax nofun)
    have hsame : SameHistory ⟨inbound, true⟩ ⟨inbound, false⟩ n n' :=
      ⟨h, hn, (Holds.empty ⟨inbound, false⟩).attempt hn'⟩
    exact ⟨n', hn', hsame.eq, fun q hq => hsame.ask_eq hq (.inl rfl)⟩
  · intro hshape
    obtain ⟨es, m, n', hes, hes', hsame⟩ :=
      (SameHistory.empty ⟨inbound, true⟩ ⟨inbound, false⟩).transcript requests (.inr hshape)
    have hm := session_of_transcript hes
    rw [hok, Except.ok.injEq] at hm
    subst hm
    exact ⟨es, n', hes, hes', hsame.eq, fun q hq => hsame.ask_eq hq (.inl rfl)⟩

end Network

end Transit
