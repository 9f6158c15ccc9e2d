import Transit.Proofs.Instants

/-!
# Reading written instants

An instant comes back from its written form: every number with its padding, years of more than four
digits and below zero, leap seconds, and the fraction with as many digits as it is written with.

* `DigitsEnd cs`: no digit stands in front of the text `cs`.
* `field_run`, `year_run`, `fraction_run`: the scans on what is written for their numbers.
* `Instant.ofString_render`: whole instants.
-/

namespace Transit.Instant

open Transit.Text

/-- No digit stands in front of the text. -/
def DigitsEnd (cs : List Char) : Prop := ∀ c ∈ cs.head?, c.isDigit = false

theorem digitsEnd_cons {c : Char} (h : c.isDigit = false) (cs : List Char) :
    DigitsEnd (c :: cs) := by
  rintro _ ⟨⟩
  exact h

variable {α β : Type} {cs rest : List Char} {n : Nat}

theorem run_bind_of_run {x : Scan α} {f : α → Scan β} {a : α} (h : x.run cs = .ok (a, rest)) :
    (x >>= f).run cs = (f a).run rest := by
  rw [StateT.run_bind, h]
  rfl

theorem run_get_bind {f : List Char → Scan β} : StateT.run (get >>= f) cs = (f cs).run cs := rfl

theorem run_set_bind {f : Unit → Scan β} :
    StateT.run (set rest >>= f : Scan β) cs = (f ()).run rest := rfl

theorem run_modify_bind {g : List Char → List Char} {f : PUnit → Scan β} :
    StateT.run (modify g >>= f : Scan β) cs = (f ()).run (g cs) := rfl

theorem run_peek?_bind {f : Option Char → Scan β} :
    StateT.run (peek? >>= f) cs = (f cs.head?).run cs := rfl

/-! ### Marks and numbers -/

theorem isBlank_of_isDigit {c : Char} (h : c.isDigit) : isBlank c = false := by
  have hc := bounds_of_isDigit h
  simp only [isBlank, Bool.or_eq_false_iff, Bool.and_eq_false_iff, decide_eq_false_iff_not,
    beq_eq_false_iff_ne]
  omega

theorem blanks_run_cons {c : Char} (h : isBlank c = false) (cs : List Char) :
    blanks.run (c :: cs) = .ok ((), c :: cs) := by
  have htrim : trimStart (c :: cs) = c :: cs := List.dropWhile_cons_of_neg (by simp [h])
  exact congrArg (fun cs => Except.ok ((), cs)) htrim

theorem mark_run (c : Char) (rest : List Char) : (mark c).run (c :: rest) = .ok ((), rest) := by
  rw [mark, run_get_bind]
  dsimp only
  rw [if_pos rfl]
  rfl

theorem takeWhile_take {width : Nat} {ds : List Char} (hd : ∀ d ∈ ds, d.isDigit)
    (hlen : ds.length ≤ width) (hrest : DigitsEnd rest) :
    ((ds ++ rest).take width).takeWhile Char.isDigit = ds := by
  rw [List.take_append, List.take_of_length_le hlen, List.takeWhile_append_of_pos hd]
  cases rest with
  | nil => simp
  | cons c rest =>
    have hc : c.isDigit = false := hrest c rfl
    cases width - ds.length <;> simp [hc]

theorem digits_run {width : Nat} {ds : List Char} (hd : ∀ d ∈ ds, d.isDigit) (hne : ds ≠ [])
    (hlen : ds.length ≤ width) (hrest : DigitsEnd rest) :
    (digits width).run (ds ++ rest) = .ok (ds, rest) := by
  rw [digits, run_get_bind, takeWhile_take hd hlen hrest]
  dsimp only
  rw [if_neg (by simp [hne]), if_neg (by simp [hne]), run_set_bind, List.drop_left]
  rfl

/-- A padded number is read with all of its digits. -/
theorem digits_run_padded {width k : Nat} (hk : 0 < k) (hn : n < 10 ^ k) (hle : k ≤ width)
    (hrest : DigitsEnd rest) :
    (digits width).run ((padded k n).toList ++ rest) = .ok ((padded k n).toList, rest) :=
  digits_run (fun _ => isDigit_of_mem_padded) (padded_ne_nil k n)
    ((length_padded hk hn).trans_le hle) hrest

theorem blanks_run_padded (k n : Nat) (rest : List Char) :
    blanks.run ((padded k n).toList ++ rest) = .ok ((), (padded k n).toList ++ rest) := by
  cases h : (padded k n).toList with
  | nil => exact absurd h (padded_ne_nil k n)
  | cons c cs =>
    have hc : c ∈ (padded k n).toList := h ▸ List.mem_cons_self
    exact blanks_run_cons (isBlank_of_isDigit (isDigit_of_mem_padded hc)) _

theorem field_run {low high : Nat} (hlow : low ≤ n) (hhigh : n ≤ high) (hn : n < 100)
    (hrest : DigitsEnd rest) :
    (field low high).run ((padded 2 n).toList ++ rest) = .ok (n, rest) := by
  rw [field, run_bind_of_run (blanks_run_padded 2 n rest),
    run_bind_of_run (digits_run_padded (by decide) hn (by decide) hrest), ofDigits_padded]
  dsimp only
  rw [if_neg (by omega)]
  rfl

/-! ### Years -/

theorem allDigits_run {k : Nat} (hrest : DigitsEnd rest) :
    allDigits.run ((padded k n).toList ++ rest) = .ok (n, rest) := by
  have hlen : (padded k n).toList.length ≤ ((padded k n).toList ++ rest).length := by
    rw [List.length_append]
    exact Nat.le_add_right _ _
  rw [allDigits, run_get_bind, run_bind_of_run (digits_run (fun _ => isDigit_of_mem_padded)
    (padded_ne_nil k n) hlen hrest), ofDigits_padded]
  rfl

/-- A year of up to four digits has no sign. -/
theorem year_run_digits (hn : n < 10000) (hrest : DigitsEnd rest) :
    year.run ((padded 4 n).toList ++ rest) = .ok ((n : Int), rest) := by
  have hdigits := digits_run_padded (k := 4) (by decide) hn (Nat.le_refl 4) hrest
  have hhead : ∀ c ∈ ((padded 4 n).toList ++ rest).head?, c.isDigit := by
    intro c hc
    rw [List.head?_append_of_ne_nil _ (padded_ne_nil 4 n)] at hc
    exact isDigit_of_mem_padded (List.mem_of_mem_head? hc)
  rw [year, run_bind_of_run (blanks_run_padded 4 n rest), run_peek?_bind]
  split
  · rename_i h
    exact absurd (hhead _ h) (by decide)
  · rename_i h
    exact absurd (hhead _ h) (by decide)
  · rw [run_bind_of_run hdigits, ofDigits_padded, pure_bind]
    dsimp only
    rw [if_neg (by omega)]
    rfl

/-- A year behind a sign may have any number of digits. -/
theorem year_run_sign (negative : Bool) (hn : n ≤ 262143) (hrest : DigitsEnd rest) :
    year.run ((if negative then '-' else '+') :: ((padded 4 n).toList ++ rest)) =
      .ok (if negative then -(n : Int) else n, rest) := by
  have hsign : isBlank (if negative then '-' else '+') = false := by cases negative <;> rfl
  rw [year, run_bind_of_run (blanks_run_cons hsign _), run_peek?_bind, List.head?_cons]
  cases negative <;>
  · simp only [if_true, if_false, Bool.false_eq_true]
    rw [run_modify_bind, List.tail_cons, run_bind_of_run (allDigits_run hrest), pure_bind,
      if_neg (by omega)]
    rfl

theorem toList_sign (negative : Bool) (s : String) :
    ((if negative then "-" else "+") ++ s).toList =
      (if negative then '-' else '+') :: s.toList := by
  rw [String.toList_append]
  cases negative <;> rfl

theorem year_run {y : Int} (hfirst : firstYear ≤ y) (hlast : y ≤ lastYear)
    (hrest : DigitsEnd rest) : year.run ((renderYear y).toList ++ rest) = .ok (y, rest) := by
  unfold firstYear at hfirst
  unfold lastYear at hlast
  unfold renderYear
  split
  · rename_i h
    rw [year_run_digits (by omega) hrest, Int.toNat_of_nonneg h.1]
  · have hsign := toList_sign (decide (y < 0)) (padded 4 y.natAbs)
    have hrun := year_run_sign (decide (y < 0)) (n := y.natAbs) (by omega) hrest
    simp only [decide_eq_true_eq] at hsign hrun
    rw [hsign, List.cons_append, hrun]
    split <;> congr <;> omega

/-! ### Fractions -/

theorem toList_point (s : String) : ("." ++ s).toList = '.' :: s.toList :=
  String.toList_append.trans rfl

theorem fraction_run_point {k : Nat} (hk : 0 < k) (hk' : k ≤ 9) (hn : n < 10 ^ k)
    (hrest : DigitsEnd rest) :
    fraction.run ('.' :: ((padded k n).toList ++ rest)) = .ok (10 ^ (9 - k) * n, rest) := by
  have hdrop : rest.dropWhile Char.isDigit = rest := by
    cases rest with
    | nil => rfl
    | cons c rest => exact List.dropWhile_cons_of_neg (by simp [hrest c rfl])
  have hdigits := digits_run_padded hk hn hk' hrest
  rw [fraction, run_peek?_bind]
  simp only [List.head?_cons]
  rw [run_modify_bind, List.tail_cons, run_bind_of_run hdigits, run_modify_bind, hdrop,
    ofDigits_append_zeros, ofDigits_padded, length_padded hk hn]
  rfl

/-- The digits that are not written are zeros. -/
theorem fraction_run (hn : n < nanosPerSecond) (rest : List Char) :
    fraction.run ((renderFraction n).toList ++ 'Z' :: rest) = .ok (n, 'Z' :: rest) := by
  unfold nanosPerSecond at hn
  have hend : DigitsEnd ('Z' :: rest) := digitsEnd_cons rfl rest
  have hgroups {k m : Nat} (hk : 0 < k) (hk' : k ≤ 9) (hm : m < 10 ^ k)
      (heq : 10 ^ (9 - k) * m = n) :
      fraction.run (("." ++ padded k m).toList ++ 'Z' :: rest) = .ok (n, 'Z' :: rest) := by
    rw [toList_point, List.cons_append, fraction_run_point hk hk' hm hend, heq]
  unfold renderFraction
  split
  · rename_i h
    subst h
    rfl
  split
  · exact hgroups (by decide) (by decide) (by omega) (by omega)
  split
  · exact hgroups (by decide) (by decide) (by omega) (by omega)
  · exact hgroups (by decide) (by decide) hn (by omega)

theorem offset_run : offset.run ['Z'] = .ok (0, []) := rfl

/-! ### Instants -/

/-- The second that is written: sixty for a leap second. -/
def writtenSecond (t : Instant) : Nat :=
  t.second % 60 + if t.nanos < nanosPerSecond then 0 else 1

theorem toList_render (t : Instant) :
    (t.render "Z").toList =
      (renderYear t.date.year).toList ++ '-' :: ((padded 2 t.date.month).toList ++ '-' ::
        ((padded 2 t.date.day).toList ++ 'T' :: ((padded 2 (t.second / 3600)).toList ++ ':' ::
        ((padded 2 (t.second / 60 % 60)).toList ++ ':' ::
        ((padded 2 t.writtenSecond).toList ++
        ((renderFraction (t.nanos % nanosPerSecond)).toList ++ ['Z'])))))) := by
  simp [render, writtenSecond]

theorem digitsEnd_renderFraction (n : Nat) (rest : List Char) :
    DigitsEnd ((renderFraction n).toList ++ 'Z' :: rest) := by
  have hpoint (s : String) : DigitsEnd (("." ++ s).toList ++ 'Z' :: rest) := by
    rw [toList_point]
    exact digitsEnd_cons rfl _
  unfold renderFraction
  split
  · exact digitsEnd_cons rfl rest
  split
  · exact hpoint _
  split <;> exact hpoint _

/-- A mark may have white space before it. -/
theorem blanks_mark_run {c : Char} (hc : isBlank c = false) {f : Unit → Scan β} :
    StateT.run (do blanks; let u ← mark c; f u) (c :: rest) = (f ()).run rest := by
  rw [run_bind_of_run (blanks_run_cons hc rest), run_bind_of_run (mark_run c rest)]

/-- Hours, minutes and seconds as they are written make the second of the day. -/
theorem second_of_written (t : Instant) (h : t.IsValid) :
    3600 * (t.second / 3600) + 60 * (t.second / 60 % 60) + min t.writtenSecond 59 = t.second := by
  have hleap := h.leap
  unfold writtenSecond
  split <;> omega

/-- Sixty seconds are written for leap seconds alone. -/
theorem nanos_of_written (t : Instant) (h : t.IsValid) :
    (if t.writtenSecond = 60 then t.nanos % nanosPerSecond + nanosPerSecond
      else t.nanos % nanosPerSecond) = t.nanos := by
  have hleap := h.leap
  have hnanos := h.nanos
  unfold writtenSecond
  unfold nanosPerSecond at *
  split
  · rw [if_neg (by omega), Nat.mod_eq_of_lt (by assumption)]
  · rw [if_pos (by omega)]
    omega

theorem reading_run {t : Instant} (h : t.IsValid) :
    reading.run (t.render "Z").toList = .ok (⟨t.date, t.second, t.nanos, 0⟩, []) := by
  obtain ⟨hmonth, hmonth'⟩ := h.date.month_bounds
  have hday := h.date.day_le
  have hsecond := h.second
  unfold secondsPerDay at hsecond
  have hwritten : t.writtenSecond ≤ 60 := by
    unfold writtenSecond
    split <;> omega
  have hend {c : Char} (hc : c.isDigit = false) (rest : List Char) : DigitsEnd (c :: rest) :=
    digitsEnd_cons hc rest
  -- number by number and mark by mark
  rw [toList_render, reading, run_bind_of_run (year_run h.date.1 h.date.2.1 (hend rfl _)),
    blanks_mark_run rfl,
    run_bind_of_run (field_run hmonth hmonth' (by omega) (hend rfl _)), blanks_mark_run rfl,
    run_bind_of_run (field_run h.date.2.2.1 hday (by omega) (hend rfl _)), run_get_bind]
  dsimp only
  rw [if_pos (.inl rfl), run_set_bind,
    run_bind_of_run (field_run (Nat.zero_le _) (by omega) (by omega) (hend rfl _)),
    blanks_mark_run rfl,
    run_bind_of_run (field_run (Nat.zero_le _) (by omega) (by omega) (hend rfl _)),
    blanks_mark_run rfl,
    run_bind_of_run (field_run (Nat.zero_le _) hwritten (by omega) (digitsEnd_renderFraction _ _)),
    run_bind_of_run (fraction_run (Nat.mod_lt _ (by decide)) []), run_bind_of_run offset_run,
    second_of_written t h, nanos_of_written t h]
  rfl

theorem ofReading_eq_ok {r : Reading} {t : Instant} (hdate : r.date.IsValid)
    (hoffset : r.offset.natAbs < secondsPerDay)
    (hshift : shift? ⟨r.date, r.second, r.nanos⟩ r.offset = some t) : ofReading r = .ok t := by
  unfold ofReading
  rw [if_neg (not_or.2 ⟨not_not.2 hdate, Nat.not_le.2 hoffset⟩), hshift]

theorem shift?_zero {t : Instant} (h : t.second < secondsPerDay) : t.shift? 0 = some t := by
  unfold shift?
  dsimp only
  rw [Int.sub_zero, if_neg (by omega), if_pos (by omega), Int.toNat_natCast]

/-- A valid instant comes back from its written form. -/
theorem ofString_render {t : Instant} (h : t.IsValid) : ofString (t.render "Z") = .ok t := by
  have hoffset : (0 : Int).natAbs < secondsPerDay := by
    unfold secondsPerDay
    omega
  rw [ofString, reading_run h, Checked.ok_bind]
  exact (if_pos rfl).trans (ofReading_eq_ok h.date hoffset (shift?_zero h.second))

end Transit.Instant
