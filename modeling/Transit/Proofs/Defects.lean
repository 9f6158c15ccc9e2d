import Transit.Proofs.Shapes

/-!
# The first rule of shape that is broken

* `Route.FirstDefect r d`: of the rules of shape, in the order length, repetition, start, terminus,
  `d` is the first one that the route breaks. A repeated stop is the one that repeats first.
* `Line.FirstDefect l d`: the line has no routes, or `d` names its first route of another line.
* `check_firstDefect`: the checks accept exactly the right shape, and otherwise give the first
  defect.
-/

namespace Transit

/-- What repeats first stands where no earlier place has a repeat, and equals an element before it
or one that was seen already. -/
theorem firstRepeat_eq_some_iff {α : Type} [DecidableEq α] {seen as : List α} {a : α} :
    firstRepeat seen as = some a ↔
      ∃ i : Nat, as[i]? = some a ∧ a ∈ seen ++ as.take i ∧ Fresh seen (as.take i) := by
  induction as generalizing seen with
  | nil => simp [firstRepeat]
  | cons b as ih =>
    rw [firstRepeat]
    by_cases hb : b ∈ seen
    · rw [if_pos hb]
      constructor
      · rintro ⟨⟩
        exact ⟨0, rfl, List.mem_append_left _ hb, fresh_nil⟩
      · rintro ⟨i, hi, -, hfresh⟩
        cases i with
        | zero => exact hi
        | succ i =>
          rw [List.take_succ_cons] at hfresh
          exact absurd hb (hfresh.absent b List.mem_cons_self)
    · -- behind `b`, the elements seen are those before it and `b`
      have hsame : ∀ c, c ∈ b :: seen ↔ c ∈ seen ++ [b] := by simp [or_comm]
      have hmem : ∀ i : Nat, a ∈ b :: seen ++ as.take i ↔ a ∈ seen ++ (b :: as).take (i + 1) := by
        intro i
        simp [or_left_comm]
      have hfresh : ∀ i : Nat, Fresh (b :: seen) (as.take i) ↔
          Fresh seen ((b :: as).take (i + 1)) := by
        intro i
        rw [List.take_succ_cons, fresh_cons, fresh_congr hsame, and_iff_right hb]
      rw [if_neg hb, ih]
      constructor
      · rintro ⟨i, hi, hm, hf⟩
        exact ⟨i + 1, hi, (hmem i).1 hm, (hfresh i).1 hf⟩
      · rintro ⟨i, hi, hm, hf⟩
        cases i with
        | zero =>
          cases hi
          exact absurd (by simpa using hm) hb
        | succ i => exact ⟨i, hi, (hmem i).2 hm, (hfresh i).2 hf⟩

/-- No place before the `i`th has an element of an earlier place when the elements there are
distinct. -/
theorem nodup_take_iff {α : Type} {as : List α} {i : Nat} :
    (as.take i).Nodup ↔ ∀ j < i, ∀ a, as[j]? = some a → a ∉ as.take j := by
  rw [nodup_iff_not_mem_take]
  refine forall_congr' fun j => ?_
  by_cases hj : j < i
  · simp [List.take_take, hj, Nat.min_eq_left (Nat.le_of_lt hj)]
  · have hnone : (as.take i)[j]? = none := List.getElem?_take_eq_none (Nat.le_of_not_lt hj)
    simp only [hnone, reduceCtorEq, hj, false_imp_iff, implies_true]

/-- Without elements seen before, what repeats first stands at the least place that has an element
of an earlier one. -/
theorem firstRepeat_nil_eq_some_iff {α : Type} [DecidableEq α] {as : List α} {a : α} :
    firstRepeat [] as = some a ↔
      ∃ i : Nat, as[i]? = some a ∧ a ∈ as.take i ∧
        ∀ j < i, ∀ b, as[j]? = some b → b ∉ as.take j := by
  rw [firstRepeat_eq_some_iff]
  refine exists_congr fun i => and_congr_right fun _ => and_congr (by rw [List.nil_append]) ?_
  rw [← nodup_take_iff]
  exact ⟨fun h => h.distinct, fun h => ⟨h, fun _ _ => List.not_mem_nil⟩⟩

/-! ### Routes -/

/-- The first of the rules of shape that the route breaks. -/
inductive Route.FirstDefect (r : Route) : RouteDefect → Prop
  | tooShort (short : r.stops.length < 2) : FirstDefect r (.tooShort r.stops.length)
  /-- The stop at the least place that has the stop of an earlier one. -/
  | repeatedStop {i : Nat} {stop : String} (two_le : 2 ≤ r.stops.length)
      (place : r.stops[i]? = some stop) (earlier : stop ∈ r.stops.take i)
      (least : ∀ j < i, ∀ s, r.stops[j]? = some s → s ∉ r.stops.take j) :
      FirstDefect r (.repeatedStop stop)
  | wrongStart (two_le : 2 ≤ r.stops.length) (distinct : r.stops.Nodup)
      (start : r.stops.head? ≠ some r.start) : FirstDefect r (.wrongStart r.start)
  | wrongTerminus (two_le : 2 ≤ r.stops.length) (distinct : r.stops.Nodup)
      (start : r.stops.head? = some r.start) (terminus : r.stops.getLast? ≠ some r.terminus) :
      FirstDefect r (.wrongTerminus r.terminus)

/-- The check gives the first defect. -/
theorem Route.check_eq_error_iff {r : Route} {d : RouteDefect} :
    r.check = .error d ↔ r.FirstDefect d := by
  constructor
  · intro h
    unfold check at h
    split at h
    · rename_i hshort
      cases h
      exact .tooShort hshort
    · rename_i hlong
      rw [Nat.not_lt] at hlong
      split at h
      · rename_i stop hrepeat
        cases h
        obtain ⟨i, hplace, hearlier, hleast⟩ := firstRepeat_nil_eq_some_iff.1 hrepeat
        exact .repeatedStop hlong hplace hearlier hleast
      · rename_i hnone
        have hdistinct := (firstRepeat_eq_none_iff.1 hnone).distinct
        split at h
        · rename_i hstart
          cases h
          exact .wrongStart hlong hdistinct hstart
        · rename_i hstart
          split at h
          · rename_i hterminus
            cases h
            exact .wrongTerminus hlong hdistinct (not_not.1 hstart) hterminus
          · cases h
  · have hnone : r.stops.Nodup → firstRepeat [] r.stops = none := fun hdistinct =>
      firstRepeat_eq_none_iff.2 ⟨hdistinct, fun _ _ => List.not_mem_nil⟩
    intro h
    cases h with
    | tooShort hshort => exact if_pos hshort
    | repeatedStop htwo hplace hearlier hleast =>
      rw [check, if_neg (Nat.not_lt.2 htwo),
        firstRepeat_nil_eq_some_iff.2 ⟨_, hplace, hearlier, hleast⟩]
    | wrongStart htwo hdistinct hstart =>
      rw [check, if_neg (Nat.not_lt.2 htwo), hnone hdistinct]
      exact if_pos hstart
    | wrongTerminus htwo hdistinct hstart hterminus =>
      rw [check, if_neg (Nat.not_lt.2 htwo), hnone hdistinct]
      exact (if_neg (not_not.2 hstart)).trans (if_pos hterminus)

/-- A route along given stops starts and ends where they do, so its shape is right when they are at
least two and distinct. -/
theorem Route.wellFormed_along {id direction lineId : String} {stops : List String} :
    (along id direction lineId stops).WellFormed ↔ 2 ≤ stops.length ∧ stops.Nodup := by
  constructor
  · intro h
    exact ⟨h.two_le, h.distinct⟩
  · rintro ⟨htwo, hdistinct⟩
    have hne : stops ≠ [] := fun h => by simp [h] at htwo
    exact ⟨htwo, hdistinct, by simp [along, List.head?_eq_some_head hne],
      by simp [along, List.getLast?_eq_some_getLast hne]⟩

/-! ### Lines -/

/-- The first of the rules of shape that the line breaks: it has no routes, or its first route of
another line. -/
inductive Line.FirstDefect (l : Line) : LineDefect → Prop
  | noRoutes (none : l.routes = []) : FirstDefect l .noRoutes
  | foreignRoute {before after : List Route} {r : Route} (routes : l.routes = before ++ r :: after)
      (own : ∀ s ∈ before, s.lineId = l.id) (foreign : r.lineId ≠ l.id) :
      FirstDefect l (.foreignRoute r.id r.lineId)

/-- The check gives the first defect. -/
theorem Line.check_eq_error_iff {l : Line} {d : LineDefect} :
    l.check = .error d ↔ l.FirstDefect d := by
  constructor
  · intro h
    unfold check at h
    split at h
    · rename_i hempty
      cases h
      exact .noRoutes (List.isEmpty_iff.1 hempty)
    · split at h
      · rename_i r hforeign
        cases h
        obtain ⟨hne, before, after, hroutes, hown⟩ := List.find?_eq_some_iff_append.1 hforeign
        exact .foreignRoute hroutes (by simpa using hown) (by simpa using hne)
      · cases h
  · intro h
    cases h with
    | noRoutes hnone => rw [check, hnone, List.isEmpty_nil, if_pos rfl]
    | @foreignRoute before after r hroutes hown hforeign =>
      have hfind : l.routes.find? (fun r => r.lineId != l.id) = some r :=
        List.find?_eq_some_iff_append.2
          ⟨by simpa using hforeign, before, after, hroutes, by simpa using hown⟩
      have hempty : l.routes.isEmpty = false := by simp [hroutes]
      rw [check, hempty, if_neg Bool.false_ne_true, hfind]

/-! ### Reasons -/

/-- The check of a route accepts exactly the right shape, and otherwise gives the reason of the
first rule that the route breaks, with the stop that repeats first where that is the rule. A route
along given stops passes when they are at least two and distinct. The check of a line accepts
exactly the lines that have a route and only their own, and otherwise names the first route of
another line. -/
theorem check_firstDefect :
    (∀ r : Route, (r.check = .ok () ↔ r.WellFormed) ∧
      ∀ reason, r.check.mapError RouteDefect.message = .error reason ↔
        ∃ d, r.FirstDefect d ∧ d.message = reason) ∧
    (∀ id direction lineId stops,
      (Route.along id direction lineId stops).check = .ok () ↔ 2 ≤ stops.length ∧ stops.Nodup) ∧
    ∀ l : Line, (l.check = .ok () ↔ l.routes ≠ [] ∧ ∀ r ∈ l.routes, r.lineId = l.id) ∧
      ∀ reason, l.check.mapError LineDefect.message = .error reason ↔
        ∃ d, l.FirstDefect d ∧ d.message = reason := by
  refine ⟨fun r => ⟨Route.check_eq_ok_iff, fun reason => ?_⟩, fun id direction lineId stops => ?_,
    fun l => ⟨?_, fun reason => ?_⟩⟩
  · simp only [Checked.mapError_eq_error_iff, Route.check_eq_error_iff]
  · rw [Route.check_eq_ok_iff, Route.wellFormed_along]
  · rw [Line.check_eq_ok_iff]
    exact ⟨fun h => ⟨h.routes, h.own⟩, fun h => ⟨h.1, h.2⟩⟩
  · simp only [Checked.mapError_eq_error_iff, Line.check_eq_error_iff]

/-- The stop that is met a second time first is named, not the one that stands first. -/
example : (Route.along "r" "outbound" "l" ["a", "b", "b", "a"]).check =
    .error (.repeatedStop "b") := by decide

end Transit
