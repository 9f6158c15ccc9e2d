import Transit.Proofs.Installation

/-!
# Which lines a network takes

* `Network.violations n l` lists every reason to refuse the line `l`, in the order of the document:
  first those of the line, then those of its routes, one route after the other.
* `Network.Admits n l` says what a line has to be like to be added, all at once.
* `addLine_cases`: a line is installed when there is no violation, and otherwise refused with the
  first one.
-/

namespace Transit

/-- The first of some errors, or a result when there are none. -/
def firstOr {ε α : Type} (es : List ε) (a : α) : Except ε α :=
  match es.head? with
  | some e => .error e
  | none => .ok a

section FirstOr

variable {ε α β γ : Type}

@[simp] theorem firstOr_nil (a : α) : firstOr ([] : List ε) a = .ok a := rfl

@[simp] theorem firstOr_cons (e : ε) (es : List ε) (a : α) : firstOr (e :: es) a = .error e := rfl

/-- What is checked later is reported later. -/
theorem firstOr_append (es fs : List ε) (a : α) (b : β) (f : α → β → γ) :
    (do
      let x ← firstOr es a
      let y ← firstOr fs b
      return f x y) = firstOr (es ++ fs) (f a b) := by
  cases es <;> cases fs <;> rfl

end FirstOr

namespace Network

variable {n n' : Network}

/-! ### The reasons to refuse a line -/

/-- The report of a broken rule of shape, where shapes matter. -/
def shapeViolations {δ : Type} (strict : Bool) (check : Except δ Unit)
    (report : δ → NetworkError) : List NetworkError :=
  match strict, check with
  | true, .error defect => [report defect]
  | _, _ => []

theorem shapeViolations_eq_nil_iff {δ : Type} {strict : Bool} {check : Except δ Unit}
    {report : δ → NetworkError} :
    shapeViolations strict check report = [] ↔ (strict = true → check = .ok ()) := by
  cases strict <;> cases check <;> simp [shapeViolations]

/-- The reasons to refuse a route whose line has the routes `earlier` before it. -/
def routeViolations (n : Network) (earlier : List String) (r : Route) : List NetworkError :=
  (if r.id ∈ n.routeIds ∨ r.id ∈ earlier then [.routeAlreadyExists r.id] else []) ++
    shapeViolations n.config.strictRoutes r.check (.malformedRoute r.id) ++
    (r.stops.filter (· ∉ n.stationIds)).map (.unknownStop r.id)

/-- The reasons to refuse a line, in the order of the document. -/
def violations (n : Network) (l : Line) : List NetworkError :=
  (if l.id ∈ n.lineIds then [.lineAlreadyExists l.id] else []) ++
    shapeViolations n.config.strictRoutes l.check (.malformedLine l.id) ++
    l.routes.zipIdx.flatMap fun (r, i) => n.routeViolations ((l.routes.take i).map (·.id)) r

/-- What a line has to be like to be added. -/
structure Admits (n : Network) (l : Line) : Prop where
  line_new : l.id ∉ n.lineIds
  routes_new : ∀ r ∈ l.routes, r.id ∉ n.routeIds
  routes_distinct : (l.routes.map (·.id)).Nodup
  stops_known : ∀ r ∈ l.routes, ∀ s ∈ r.stops, s ∈ n.stationIds
  well_formed : n.config.strictRoutes = true →
    l.check = .ok () ∧ ∀ r ∈ l.routes, r.check = .ok ()

theorem routeViolations_eq_nil_iff {earlier : List String} {r : Route} :
    n.routeViolations earlier r = [] ↔ r.id ∉ n.routeIds ∧ r.id ∉ earlier ∧
      (n.config.strictRoutes = true → r.check = .ok ()) ∧ ∀ s ∈ r.stops, s ∈ n.stationIds := by
  unfold routeViolations
  rw [List.append_eq_nil_iff, List.append_eq_nil_iff, List.map_eq_nil_iff,
    List.filter_eq_nil_iff, shapeViolations_eq_nil_iff]
  simp only [ite_eq_right_iff, List.cons_ne_self, imp_false, not_or, decide_eq_true_eq,
    Decidable.not_not]
  tauto

/-- There is no reason to refuse a line exactly when it is fit to be added. -/
theorem violations_eq_nil_iff {l : Line} : n.violations l = [] ↔ n.Admits l := by
  unfold violations
  rw [List.append_eq_nil_iff, List.append_eq_nil_iff, List.flatMap_eq_nil_iff,
    shapeViolations_eq_nil_iff]
  simp only [routeViolations_eq_nil_iff, List.mem_zipIdx_iff_getElem?]
  constructor
  · rintro ⟨⟨hline, hl⟩, hroutes⟩
    have hr : ∀ r ∈ l.routes, ∃ i, l.routes[i]? = some r := fun r h => List.mem_iff_getElem?.1 h
    constructor
    · simpa using hline
    · intro r h
      obtain ⟨i, hi⟩ := hr r h
      exact (hroutes (r, i) hi).1
    · rw [nodup_iff_not_mem_take]
      intro i id hi
      rw [List.getElem?_map, Option.map_eq_some_iff] at hi
      obtain ⟨r, hi, rfl⟩ := hi
      rw [← List.map_take]
      exact (hroutes (r, i) hi).2.1
    · intro r h
      obtain ⟨i, hi⟩ := hr r h
      exact (hroutes (r, i) hi).2.2.2
    · intro hs
      refine ⟨hl hs, fun r h => ?_⟩
      obtain ⟨i, hi⟩ := hr r h
      exact (hroutes (r, i) hi).2.2.1 hs
  · intro h
    refine ⟨⟨by simpa using h.line_new, fun hs => (h.well_formed hs).1⟩, ?_⟩
    rintro ⟨r, i⟩ hi
    have hr : r ∈ l.routes := List.mem_of_getElem? hi
    refine ⟨h.routes_new r hr, ?_, fun hs => (h.well_formed hs).2 r hr, h.stops_known r hr⟩
    rw [List.map_take]
    exact nodup_iff_not_mem_take.1 h.routes_distinct i r.id (by simp [List.getElem?_map, hi])

/-! ### Resolving a line -/

/-- The handles of the stops of a route that are stations. -/
def stopHandles (n : Network) (r : Route) : List (Handle .station) :=
  r.stops.filterMap n.station?

/-- The routes of a line with the handles of their stops. -/
def resolved (n : Network) (l : Line) : List (Route × List (Handle .station)) :=
  l.routes.map fun r => (r, n.stopHandles r)

theorem resolveStops_eq (hn : n.Routed) (route : String) (stops : List String) :
    n.resolveStops route stops =
      firstOr ((stops.filter (· ∉ n.stationIds)).map (.unknownStop route))
        (stops.filterMap n.station?) := by
  induction stops with
  | nil => rfl
  | cons stop rest ih =>
    rw [resolveStops]
    cases h : n.station? stop with
    | none =>
      have hstop : stop ∉ n.stationIds := (hn.stationHandles.get?_eq_none_iff).1 h
      simp [hstop]
    | some s =>
      have hstop : ¬ stop ∉ n.stationIds := fun hm => by
        rw [← hn.stationHandles.get?_eq_none_iff] at hm
        exact absurd (h.symm.trans hm) (by simp)
      rw [List.filter_cons_of_neg (by simpa using hstop), List.filterMap_cons_some h, ih]
      simp only [firstOr]
      split <;> rfl

theorem resolveRoute_eq (hn : n.Routed) (seen : List String) (r : Route) :
    n.resolveRoute seen r = firstOr (n.routeViolations seen r) (n.stopHandles r) := by
  unfold resolveRoute routeViolations
  simp only [hn.routeHandles.contains_iff]
  by_cases htaken : r.id ∈ n.routeIds ∨ r.id ∈ seen
  · simp [htaken]
  · rw [if_neg htaken, if_neg htaken, List.nil_append, resolveStops_eq hn]
    cases n.config.strictRoutes <;> cases hcheck : r.check <;> simp [shapeViolations, stopHandles]

/-- The routes that come earlier count as a set. -/
theorem routeViolations_congr {earlier earlier' : List String}
    (h : ∀ id, id ∈ earlier ↔ id ∈ earlier') (r : Route) :
    n.routeViolations earlier r = n.routeViolations earlier' r := by
  unfold routeViolations
  simp only [h]

theorem resolveRoutes_eq (hn : n.Routed) (seen : List String) (rs : List Route) :
    n.resolveRoutes seen rs =
      firstOr (rs.zipIdx.flatMap fun (r, i) =>
          n.routeViolations (seen ++ (rs.take i).map (·.id)) r)
        (rs.map fun r => (r, n.stopHandles r)) := by
  induction rs generalizing seen with
  | nil => rfl
  | cons r rest ih =>
    -- the ids seen later on are those seen before, with that of `r` at another place
    have hlater : (rest.zipIdx.flatMap fun (r', i) =>
          n.routeViolations (r.id :: seen ++ (rest.take i).map (·.id)) r') =
        (rest.zipIdx 1).flatMap fun (r', i) =>
          n.routeViolations (seen ++ ((r :: rest).take i).map (·.id)) r' := by
      rw [List.zipIdx_succ, List.flatMap_map]
      refine congrArg List.flatten (List.map_congr_left ?_)
      rintro ⟨r', i⟩ -
      refine routeViolations_congr (fun id => ?_) r'
      simp only [List.take_succ_cons, List.map_cons, List.cons_append, List.mem_cons,
        List.mem_append]
      tauto
    rw [resolveRoutes, resolveRoute_eq hn, ih, hlater, List.zipIdx_cons, List.flatMap_cons]
    simp only [List.take_zero, List.map_nil, List.append_nil, List.map_cons]
    exact firstOr_append _ _ _ _ fun stops others => (r, stops) :: others

/-- Resolving a line reports the first reason to refuse it. -/
theorem resolveLine_eq (hn : n.Coherent) (l : Line) :
    n.resolveLine l = firstOr (n.violations l) (n.resolved l) := by
  unfold resolveLine violations
  simp only [hn.lineHandles.contains_iff]
  by_cases htaken : l.id ∈ n.lineIds
  · simp [htaken]
  · rw [if_neg htaken, if_neg htaken, List.nil_append, resolveRoutes_eq hn.toRouted]
    cases n.config.strictRoutes <;> cases hcheck : l.check <;> simp [shapeViolations, resolved]

/-- When every stop is a station, the handles stand for the stops one by one. -/
theorem map_stopHandles (hn : n.Routed) {r : Route} (h : ∀ s ∈ r.stops, s ∈ n.stationIds) :
    (n.stopHandles r).map some = r.stops.map n.station? := by
  unfold stopHandles
  generalize r.stops = stops at h
  induction stops with
  | nil => rfl
  | cons stop rest ih =>
    obtain ⟨hstop, hrest⟩ := List.forall_mem_cons.1 h
    cases hs : n.station? stop with
    | none => exact absurd hstop (hn.stationHandles.get?_eq_none_iff.1 hs)
    | some s => rw [List.filterMap_cons_some hs, List.map_cons, List.map_cons, ih hrest, hs]

/-! ### The outcome -/

/-- A line that is fit to be added is installed. -/
theorem addLine_admitted (hn : n.Coherent) {l : Line} (h : n.Admits l) :
    ∃ n', n.addLine l = .ok ⟨.ok (), n'⟩ ∧ Installed n n' l (n.resolved l) := by
  have hids : (n.routeIds ++ (n.resolved l).map (·.1.id)).Nodup := by
    rw [resolved, List.map_map, List.nodup_append]
    refine ⟨hn.routeHandles.nodup, h.routes_distinct, ?_⟩
    intro a ha b hb hab
    obtain ⟨r, hr, rfl⟩ := List.mem_map.1 hb
    obtain rfl : a = r.id := hab
    exact h.routes_new r hr ha
  have hstops : ∀ entry ∈ n.resolved l, ∀ s ∈ entry.2, s.index < n.nodes.size := by
    intro entry hentry s hs
    obtain ⟨r, -, rfl⟩ := List.mem_map.1 hentry
    obtain ⟨stop, -, hstop⟩ := List.mem_filterMap.1 hs
    exact hn.station?_lt hstop
  obtain ⟨n', hok, hn'⟩ := installLine_ok hn h.line_new hids hstops
  refine ⟨n', ?_, hn'⟩
  unfold addLine
  rw [resolveLine_eq hn, violations_eq_nil_iff.2 h]
  simp only [firstOr_nil, hok]
  rfl

/-- Every other line is refused with the first reason, and leaves no trace. -/
theorem addLine_refused (hn : n.Coherent) {l : Line} {e : NetworkError}
    (h : (n.violations l).head? = some e) : n.addLine l = .ok ⟨.error e, n⟩ := by
  unfold addLine
  rw [resolveLine_eq hn, firstOr, h]
  rfl

/-- Adding a line never fails: it is installed, or refused with the first reason. -/
theorem addLine_cases (hn : n.Coherent) (l : Line) :
    (n.Admits l ∧ ∃ n', n.addLine l = .ok ⟨.ok (), n'⟩ ∧ Installed n n' l (n.resolved l)) ∨
      (¬ n.Admits l ∧ ∃ e, (n.violations l).head? = some e ∧ n.addLine l = .ok ⟨.error e, n⟩) := by
  rw [← violations_eq_nil_iff]
  cases hv : n.violations l with
  | nil => exact Or.inl ⟨rfl, addLine_admitted hn (violations_eq_nil_iff.1 hv)⟩
  | cons e rest =>
    refine Or.inr ⟨List.cons_ne_nil _ _, e, rfl, addLine_refused hn ?_⟩
    rw [hv, List.head?_cons]

/-- Routes are checked one after the other, each for its id before its stops. -/
example :
    ({} : Network).violations
        { id := "l", routes := [{ id := "r", stops := ["a"] }, { id := "r", stops := ["b"] }] } =
      [.unknownStop "r" "a", .routeAlreadyExists "r", .unknownStop "r" "b"] := by
  decide

end Network

end Transit
