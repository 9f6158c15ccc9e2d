import Transit.Proofs.Settings
import Transit.Proofs.Walks

/-!
# Times against the order of the stops

The inbound policy says what the time between two stops of a route is when it is asked for against
their order: zero, or the time of the way back.

* `routeTimeIn_of_le`: the times between two stops under both policies, each way.
* `SymmetricClosure f g`: `g` gives both ways the greater of the two times that `f` gives.
* `session_inboundPolicy`: the policy counts in nothing else, and the one is the closure of the
  other.
-/

namespace Transit

/-! ### The greater of two times -/

theorem max_zero (t : UInt32) : max t 0 = t := by
  show (if t ≤ 0 then 0 else t) = t
  split
  case isTrue h => exact UInt32.le_antisymm UInt32.zero_le h
  case isFalse => rfl

theorem zero_max (t : UInt32) : max 0 t = t := if_pos UInt32.zero_le

/-- Wherever `f` gives a time, it does so both ways, and `g` gives the greater one both ways. -/
def SymmetricClosure (f g : String → String → Checked UInt32) : Prop :=
  ∀ a b, (∃ e, f a b = .error e ∧ g a b = .error e) ∨
    ∃ s t, f a b = .ok s ∧ f b a = .ok t ∧ g a b = .ok (max s t) ∧ g b a = .ok (max s t)

/-! ### Times along a route -/

section RouteTimes

variable {h : List Call} {line route a b : String} {l : Line} {r : Route}

/-- Between stations in the order of the stops there is a time. The one policy gives it one way
only, and the other both ways. -/
theorem routeTimeIn_of_le (hab : a ≠ b)
    (hr : (routeIn h route).filter (·.1.id = line) = some (l, r)) (hstops : r.stops ≠ [])
    (hle : placeAmong r.stops a ≤ placeAmong r.stops b) (strict : Bool) :
    ∃ t, routeTimeIn ⟨.zero, strict⟩ h line route a b = .ok t ∧
      routeTimeIn ⟨.zero, strict⟩ h line route b a = .ok 0 ∧
      routeTimeIn ⟨.reverseSum, strict⟩ h line route a b = .ok t ∧
      routeTimeIn ⟨.reverseSum, strict⟩ h line route b a = .ok t := by
  have hthere := routeTimeIn_outbound hab hr hle
  rcases Nat.lt_or_eq_of_le hle with hlt | heq
  · obtain ⟨t, ht, -⟩ := toNat_spanIn h hle (placeAmong_lt hstops)
    rw [ht] at hthere
    have hback := routeTimeIn_inbound (Ne.symm hab) hr hlt
    exact ⟨t, hthere _, hback ⟨.zero, strict⟩, hthere _, (hback ⟨.reverseSum, strict⟩).trans ht⟩
  · -- they stand at one stop, as they do off the route, and both ways are with the order
    have hback := routeTimeIn_outbound (Ne.symm hab) hr (Nat.le_of_eq heq.symm)
    rw [heq, spanIn_self (placeAmong_lt hstops)] at hthere hback
    exact ⟨0, hthere _, hback _, hthere _, hback _⟩

/-- Walking back makes the times along a route symmetric. -/
theorem symmetricClosure_routeTimeIn (strict : Bool) (h : List Call) (line route : String) :
    SymmetricClosure (routeTimeIn ⟨.zero, strict⟩ h line route)
      (routeTimeIn ⟨.reverseSum, strict⟩ h line route) := by
  intro a b
  by_cases hab : a = b
  · subst hab
    have hzero := fun config => routeTimeIn_self config h line route a
    exact .inr ⟨0, 0, hzero _, hzero _, hzero _, hzero _⟩
  cases hr : (routeIn h route).filter (·.1.id = line) with
  | none =>
    have hzero := routeTimeIn_of_no_route hr
    exact .inr ⟨0, 0, hzero _ a b, hzero _ b a, hzero _ a b, hzero _ b a⟩
  | some entry =>
    by_cases hstops : entry.2.stops = []
    · have hpanic := routeTimeIn_of_no_stops hab hr hstops
      exact .inl ⟨_, hpanic _, hpanic _⟩
    rcases Nat.le_total (placeAmong entry.2.stops a) (placeAmong entry.2.stops b) with hle | hle
    · obtain ⟨t, hzero, hback, hsum, hsumBack⟩ := routeTimeIn_of_le hab hr hstops hle strict
      refine .inr ⟨t, 0, hzero, hback, ?_⟩
      rw [max_zero]
      exact ⟨hsum, hsumBack⟩
    · obtain ⟨t, hzero, hback, hsum, hsumBack⟩ :=
        routeTimeIn_of_le (Ne.symm hab) hr hstops hle strict
      refine .inr ⟨0, t, hback, hzero, ?_⟩
      rw [zero_max]
      exact ⟨hsumBack, hsum⟩

end RouteTimes

/-! ### Networks under both policies -/

namespace Network

/-- The policy counts in one query only. On requests of any kind two networks that differ in it
give the same verdicts, and then are the same but for the policy, so that they answer every other
query alike. And the times along a route under the one policy are the symmetric closure of those
under the other, whatever stations they are between. -/
theorem session_inboundPolicy (strict : Bool) (requests : List Request) :
    ∃ es n n', transcript { config := ⟨.zero, strict⟩ } (requests.map .request) = .ok (es, n) ∧
      transcript { config := ⟨.reverseSum, strict⟩ } (requests.map .request) = .ok (es, n') ∧
      n' = { n with config := ⟨.reverseSum, strict⟩ } ∧
      (∀ q, q ≠ .config → (∀ line route a b, q ≠ .routeTime line route a b) →
        n'.ask q = n.ask q) ∧
      ∀ line route, SymmetricClosure (n.routeTime line route) (n'.routeTime line route) := by
  obtain ⟨es, n, n', hes, hes', hsame⟩ :=
    (SameHistory.empty ⟨.zero, strict⟩ ⟨.reverseSum, strict⟩).transcript requests (.inl rfl)
  refine ⟨es, n, n', hes, hes', hsame.eq, fun q hconfig htime => hsame.ask_eq hconfig (.inr htime),
    fun line route a b => ?_⟩
  obtain ⟨h, hn, hn'⟩ := hsame
  simp only [hn.routeTime_eq, hn'.routeTime_eq]
  exact symmetricClosure_routeTimeIn strict h line route a b

/-- Against the order of the stops, the one policy gives no time, and the other that of the way
there, be it the sum or the largest time. -/
theorem session_inboundPolicy_thereAndBack :
    ∃ es n n',
      transcript { config := ⟨.zero, true⟩ } (thereAndBack.map .request) = .ok (es, n) ∧
      transcript { config := ⟨.reverseSum, true⟩ } (thereAndBack.map .request) = .ok (es, n') ∧
      n'.ask .statistics = n.ask .statistics ∧
      SymmetricClosure (n.routeTime "l" "r") (n'.routeTime "l" "r") ∧
      n.routeTime "l" "r" "b" "c" = .ok 7 ∧ n.routeTime "l" "r" "c" "b" = .ok 0 ∧
      n'.routeTime "l" "r" "c" "b" = .ok 7 ∧
      n.routeTime "l" "r" "a" "c" = .ok 4294967295 ∧ n.routeTime "l" "r" "c" "a" = .ok 0 ∧
      n'.routeTime "l" "r" "c" "a" = .ok 4294967295 := by
  have hzero : transcript { config := ⟨.zero, true⟩ } (thereAndBack.map .request) = .ok _ := rfl
  obtain ⟨es, n, n', hes, hes', rfl, hask, hclosure⟩ := session_inboundPolicy true thereAndBack
  rw [hzero, Except.ok.injEq, Prod.mk.injEq] at hes
  obtain ⟨rfl, rfl⟩ := hes
  exact ⟨_, _, _, hzero, hes', hask .statistics nofun nofun, hclosure "l" "r", rfl, rfl, rfl, rfl,
    rfl, rfl⟩

end Network

end Transit
