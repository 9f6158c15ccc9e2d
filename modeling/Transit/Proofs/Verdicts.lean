import Transit.Proofs.Times

/-!
# Verdicts follow from the history

A network that records a history grants a call exactly when the history allows it, so the verdicts
on a list of calls can be told without a network.

* `Allows config h c`: the call `c` is fit to be made after the calls `h`.
* `AllowsAll config h cs`: each of the calls `cs` is, after `h` and those of `cs` before it.
* `Records.attempt_granted_iff`: these are the lists of calls that are granted.
-/

namespace Transit

/-! ### What a history allows -/

/-- What a line has to be like to be added after the calls `h`. -/
@[mk_iff]
structure AllowsLine (config : Config) (h : List Call) (l : Line) : Prop where
  line : l.id ∉ (linesOf h).map (·.id)
  routes : Fresh ((routesOf h).map (·.2.id)) (l.routes.map (·.id))
  stops : ∀ r ∈ l.routes, ∀ stop ∈ r.stops, stop ∈ (stationsOf h).map (·.id)
  well_formed : config.strictRoutes = true →
    l.check = .ok () ∧ ∀ r ∈ l.routes, r.check = .ok ()

/-- What a call has to be like to be granted after the calls `h`. -/
def Allows (config : Config) (h : List Call) : Call → Prop
  | .addStation s => s.id ∉ (stationsOf h).map (·.id)
  | .addLine l => AllowsLine config h l
  | .setTravelTime a b _ => ∃ entry ∈ routesOf h, Neighbours a b entry.2.stops
  | .record e => e.station ∈ (stationsOf h).map (·.id)

/-- Each of the calls is allowed after those before it. -/
def AllowsAll (config : Config) (h : List Call) : List Call → Prop
  | [] => True
  | c :: cs => Allows config h c ∧ AllowsAll config (h ++ [c]) cs

theorem allowsAll_append {config : Config} {h cs ds : List Call} :
    AllowsAll config h (cs ++ ds) ↔ AllowsAll config h cs ∧ AllowsAll config (h ++ cs) ds := by
  induction cs generalizing h with
  | nil => simp [AllowsAll]
  | cons c cs ih => simp [AllowsAll, ih, and_assoc]

namespace Network

variable {n n' : Network} {config : Config} {h : List Call} {c : Call} {cs : List Call}

/-! ### What a network grants -/

theorem Records.admits_iff (hn : n.Records config h) {l : Line} :
    n.Admits l ↔ AllowsLine config h l := by
  constructor
  · intro hl
    refine ⟨hn.lines ▸ hl.line_new, ⟨hl.routes_distinct, fun id hid => ?_⟩,
      hn.stations ▸ hl.stops_known, hn.setup ▸ hl.well_formed⟩
    obtain ⟨r, hr, rfl⟩ := List.mem_map.1 hid
    exact hn.routeIds ▸ hl.routes_new r hr
  · intro hl
    refine ⟨hn.lines ▸ hl.line, fun r hr => ?_, hl.routes.distinct, hn.stations ▸ hl.stops,
      hn.setup ▸ hl.well_formed⟩
    rw [hn.routeIds]
    exact hl.routes.absent r.id (List.mem_map_of_mem hr)

theorem Records.permits_iff (hn : n.Records config h) : n.Permits c ↔ Allows config h c := by
  cases c with
  | addStation s => rw [Permits, Allows, hn.stations]
  | addLine l => exact hn.admits_iff
  | setTravelTime a b t => exact hn.adjacent_iff
  | record e => rw [Permits, Allows, hn.stations]

/-- Calls are granted, one after the other, exactly when the history allows them. -/
theorem Records.attempt_granted_iff (hn : n.Records config h) :
    (∃ n', n.attempt cs = .ok ⟨.ok (), n'⟩) ↔ AllowsAll config h cs := by
  induction cs generalizing n h with
  | nil => exact iff_of_true ⟨n, rfl⟩ trivial
  | cons c cs ih =>
    rw [AllowsAll, ← hn.permits_iff, ← apply_eq_granted_iff hn.coherent]
    simp only [attempt_cons_eq_granted_iff]
    constructor
    · rintro ⟨n', m, hc, hcs⟩
      have hm := hn.effect (effect_of_apply hn.coherent hc)
      exact ⟨⟨m, hc⟩, (ih hm).1 ⟨n', hcs⟩⟩
    · rintro ⟨⟨m, hc⟩, hcs⟩
      have hm := hn.effect (effect_of_apply hn.coherent hc)
      obtain ⟨n', hn'⟩ := (ih hm).2 hcs
      exact ⟨n', m, hc, hn'⟩

end Network

end Transit
