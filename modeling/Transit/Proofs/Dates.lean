import Mathlib.Tactic.IntervalCases
import Transit.Calendar

/-!
# Dates of the calendar

* `Date.IsValid.month_bounds`, `Date.IsValid.day_le`: the months and the days that there are.
* `Date.IsValid.next?`, `Date.IsValid.previous?`: stepping from day to day stays in the calendar,
  across the ends of months, of Februaries of either length, and of years.
-/

namespace Transit

theorem le_daysInMonth (year : Int) {month : Nat} (h : 1 ≤ month) (h' : month ≤ 12) :
    28 ≤ daysInMonth year month := by
  interval_cases month <;> simp only [daysInMonth] <;> try omega
  split <;> omega

theorem daysInMonth_le (year : Int) (month : Nat) : daysInMonth year month ≤ 31 := by
  unfold daysInMonth
  split <;> try omega
  split <;> omega

/-- Only months have days. -/
theorem month_bounds_of_daysInMonth_pos {year : Int} {month : Nat}
    (h : 0 < daysInMonth year month) : 1 ≤ month ∧ month ≤ 12 := by
  unfold daysInMonth at h
  split at h <;> omega

namespace Date.IsValid

variable {d d' : Date}

theorem month_bounds (h : d.IsValid) : 1 ≤ d.month ∧ d.month ≤ 12 :=
  month_bounds_of_daysInMonth_pos (Nat.lt_of_lt_of_le h.2.2.1 h.2.2.2)

theorem day_le (h : d.IsValid) : d.day ≤ 31 := h.2.2.2.trans (daysInMonth_le _ _)

theorem next? (h : d.IsValid) (hd : d.next? = some d') : d'.IsValid := by
  obtain ⟨hfirst, hlast, -, -⟩ := h
  unfold Date.next? at hd
  split at hd
  · rename_i hday
    cases hd
    exact ⟨hfirst, hlast, Nat.le_add_left _ _, hday⟩
  split at hd
  · rename_i hmonth
    cases hd
    have hdays := le_daysInMonth d.year (Nat.le_add_left 1 d.month) hmonth
    exact ⟨hfirst, hlast, Nat.le_refl 1, by dsimp only; omega⟩
  split at hd
  · rename_i hyear
    cases hd
    exact ⟨by dsimp only; omega, hyear, Nat.le_refl 1, (by decide : 1 ≤ 31)⟩
  · cases hd

theorem previous? (h : d.IsValid) (hd : d.previous? = some d') : d'.IsValid := by
  have hmonths := h.month_bounds
  obtain ⟨hfirst, hlast, -, hday⟩ := h
  unfold Date.previous? at hd
  split at hd
  · rename_i hone
    cases hd
    exact ⟨hfirst, hlast, by dsimp only; omega, by dsimp only; omega⟩
  split at hd
  · rename_i hmonth
    cases hd
    have hdays := le_daysInMonth d.year (show 1 ≤ d.month - 1 by omega) (by omega)
    exact ⟨hfirst, hlast, by dsimp only; omega, Nat.le_refl _⟩
  split at hd
  · rename_i hyear
    cases hd
    exact ⟨by dsimp only; omega, by dsimp only; omega, (by decide : 1 ≤ 31), Nat.le_refl 31⟩
  · cases hd

end Date.IsValid

end Transit
