import Mathlib.Data.List.TakeWhile
import Transit.Proofs.Dates
import Transit.Proofs.Loops
import Transit.Proofs.Padding

/-!
# Instants that can be read

* `Instant.IsValid t`: the date is in the calendar, the second in the day, and a leap second at the
  end of a minute.
* `Instant.shift?_isValid`: a valid local time is a valid instant, for every offset in minutes.
* `Scan.Ensures s P`: what the scan reads satisfies `P`, whatever the text is.
* `Instant.ofString_isValid`: every instant that is read is valid.
-/

namespace Transit.Instant

open Transit.Text

/-- The instant is a point of time in the calendar. -/
structure IsValid (t : Instant) : Prop where
  date : t.date.IsValid
  second : t.second < secondsPerDay
  nanos : t.nanos < 2 * nanosPerSecond
  /-- A leap second is the last second of its minute. -/
  leap : nanosPerSecond ≤ t.nanos → t.second % 60 = 59

variable {t t' : Instant}

/-- Another date and another second of the day, the same within the minute. -/
theorem IsValid.of_second {d : Date} {s : Nat} (h : t.IsValid) (hd : d.IsValid)
    (hs : s < secondsPerDay) (hm : s % 60 = t.second % 60) :
    IsValid { t with date := d, second := s } :=
  ⟨hd, hs, h.nanos, fun hl => hm.trans (h.leap hl)⟩

/-- Offsets in minutes keep leap seconds at the ends of minutes. -/
theorem shift?_isValid {offset : Int} (h : t.IsValid) (ho : offset.natAbs < secondsPerDay)
    (hm : offset % 60 = 0) (hs : t.shift? offset = some t') : t'.IsValid := by
  have hsecond := h.second
  unfold secondsPerDay at hsecond ho
  unfold shift? secondsPerDay at hs
  dsimp only at hs
  split at hs
  · obtain ⟨d, hd, rfl⟩ := Option.map_eq_some_iff.1 hs
    exact h.of_second (h.date.previous? hd) (by unfold secondsPerDay; omega) (by omega)
  split at hs
  · cases hs
    exact h.of_second h.date (by unfold secondsPerDay; omega) (by omega)
  · obtain ⟨d, hd, rfl⟩ := Option.map_eq_some_iff.1 hs
    exact h.of_second (h.date.next? hd) (by unfold secondsPerDay; omega) (by omega)

/-! ### What scans ensure -/

section Ensures

variable {α β : Type} {P : α → Prop} {Q : β → Prop}

/-- What the scan reads satisfies `P`. -/
def Scan.Ensures (s : Scan α) (P : α → Prop) : Prop :=
  ∀ cs a rest, s.run cs = .ok (a, rest) → P a

theorem ensures_pure {a : α} (h : P a) : Scan.Ensures (pure a) P := by
  rintro cs _ rest ⟨⟩
  exact h

theorem ensures_throw {e : InstantError} : Scan.Ensures (throw e) P := nofun

theorem ensures_throw_bind {e : InstantError} {f : β → Scan α} :
    Scan.Ensures (throw e >>= f) P := nofun

theorem ensures_bind {x : Scan α} {f : α → Scan β} (hx : x.Ensures P)
    (hf : ∀ a, P a → (f a).Ensures Q) : Scan.Ensures (x >>= f) Q := by
  intro cs b rest h
  rw [StateT.run_bind] at h
  obtain ⟨p, hp, hb⟩ := Checked.bind_eq_ok_iff.1 h
  exact hf p.1 (hx cs p.1 p.2 hp) p.2 b rest hb

/-- The first scan may read anything. -/
theorem ensures_of_forall {x : Scan α} {f : α → Scan β} (hf : ∀ a, (f a).Ensures Q) :
    Scan.Ensures (x >>= f) Q :=
  ensures_bind (P := fun _ => True) (fun _ _ _ _ => trivial) fun a _ => hf a

end Ensures

theorem digits_ensures (width : Nat) :
    (digits width).Ensures fun ds => ds.length ≤ width ∧ ∀ d ∈ ds, d.isDigit := by
  refine ensures_of_forall fun cs => ?_
  have hlen : ((cs.take width).takeWhile Char.isDigit).length ≤ width :=
    ((List.takeWhile_sublist _).length_le).trans (List.length_take_le _ _)
  have hdigits : ∀ d ∈ (cs.take width).takeWhile Char.isDigit, d.isDigit :=
    fun _ => List.mem_takeWhile_imp
  dsimp only
  split
  · exact ensures_throw_bind
  split
  · exact ensures_throw_bind
  · exact ensures_of_forall fun _ => ensures_pure ⟨hlen, hdigits⟩

theorem field_ensures (low high : Nat) : (field low high).Ensures fun n => low ≤ n ∧ n ≤ high := by
  refine ensures_of_forall fun _ => ensures_of_forall fun ds => ?_
  dsimp only
  split
  · exact ensures_throw_bind
  · rename_i h
    exact ensures_pure (by omega)

theorem fraction_ensures : fraction.Ensures (· < nanosPerSecond) := by
  refine ensures_of_forall fun c => ?_
  split
  · refine ensures_of_forall fun _ => ensures_bind (digits_ensures 9) fun ds hds =>
      ensures_of_forall fun _ => ensures_pure ?_
    -- nine digits, with the zeros behind them
    have hlen : (ds ++ List.replicate (9 - ds.length) '0').length = 9 := by
      rw [List.length_append, List.length_replicate]
      omega
    have hdigits : ∀ d ∈ ds ++ List.replicate (9 - ds.length) '0', d.isDigit := by
      intro d hd
      cases List.mem_append.1 hd with
      | inl hd => exact hds.2 d hd
      | inr hd =>
        rw [List.eq_of_mem_replicate hd]
        rfl
    have hlt := ofDigits_lt hdigits
    rw [hlen] at hlt
    exact hlt
  · exact ensures_pure (by decide)

theorem offset_ensures : offset.Ensures (· % 60 = 0) := by
  refine ensures_of_forall fun _ => ensures_of_forall fun cs => ?_
  split
  · exact ensures_of_forall fun _ => ensures_pure rfl
  split
  · exact ensures_throw
  split
  · exact ensures_of_forall fun _ => ensures_pure rfl
  dsimp only
  split
  · refine ensures_of_forall fun _ => ensures_of_forall fun hours => ensures_of_forall fun _ =>
      ensures_of_forall fun minutes => ?_
    split
    · exact ensures_throw_bind
    · refine ensures_pure ?_
      split <;> omega
  · exact ensures_throw_bind

/-- The time of a reading is one of a day, and its offset is in minutes. -/
structure Reading.InRange (r : Reading) : Prop where
  second : r.second < secondsPerDay
  nanos : r.nanos < 2 * nanosPerSecond
  leap : nanosPerSecond ≤ r.nanos → r.second % 60 = 59
  offset : r.offset % 60 = 0

/-- Hours, minutes and seconds within their bounds make a time of a day. -/
theorem Reading.inRange_of_fields {date : Date} {hour minute second nanos : Nat} {offset : Int}
    (hhour : hour ≤ 23) (hminute : minute ≤ 59) (hnanos : nanos < nanosPerSecond)
    (hoffset : offset % 60 = 0) :
    Reading.InRange ⟨date, 3600 * hour + 60 * minute + min second 59,
      if second = 60 then nanos + nanosPerSecond else nanos, offset⟩ := by
  refine ⟨?second, ?nanos, ?leap, hoffset⟩
  case second =>
    dsimp only
    unfold secondsPerDay
    omega
  case nanos =>
    dsimp only
    split <;> omega
  case leap =>
    dsimp only
    split <;> omega

theorem reading_ensures : reading.Ensures Reading.InRange := by
  refine ensures_of_forall fun year => ensures_of_forall fun _ => ensures_of_forall fun _ =>
    ensures_of_forall fun month => ensures_of_forall fun _ => ensures_of_forall fun _ =>
    ensures_of_forall fun day => ensures_of_forall fun cs => ?_
  have htime (u : Unit) : Scan.Ensures (do
      let hour ← field 0 23
      blanks
      mark ':'
      let minute ← field 0 59
      blanks
      mark ':'
      let second ← field 0 60
      let nanos ← fraction
      let offset ← offset
      return {
        date := ⟨year, month, day⟩
        second := 3600 * hour + 60 * minute + min second 59
        nanos := if second = 60 then nanos + nanosPerSecond else nanos
        offset := offset : Reading }) Reading.InRange :=
    ensures_bind (field_ensures 0 23) fun hour hhour => ensures_of_forall fun _ =>
      ensures_of_forall fun _ => ensures_bind (field_ensures 0 59) fun minute hminute =>
      ensures_of_forall fun _ => ensures_of_forall fun _ => ensures_of_forall fun second =>
      ensures_bind fraction_ensures fun nanos hnanos => ensures_bind offset_ensures
      fun offset hoffset =>
        ensures_pure (Reading.inRange_of_fields hhour.2 hminute.2 hnanos hoffset)
  dsimp only
  split
  · exact ensures_throw_bind
  · split
    · exact ensures_of_forall htime
    · exact ensures_throw_bind

theorem ofReading_isValid {r : Reading} (h : r.InRange) (ht : ofReading r = .ok t) : t.IsValid := by
  unfold ofReading at ht
  split at ht
  · cases ht
  rename_i hr
  rw [not_or, not_not, Nat.not_le] at hr
  split at ht
  · rename_i t' hs
    cases ht
    exact shift?_isValid ⟨hr.1, h.second, h.nanos, h.leap⟩ hr.2 h.offset hs
  · cases ht

/-- Every instant that is read is valid. -/
theorem ofString_isValid {s : String} (h : ofString s = .ok t) : t.IsValid := by
  obtain ⟨⟨r, rest⟩, hr, h⟩ := Checked.bind_eq_ok_iff.1 h
  dsimp only at h
  split at h
  · exact ofReading_isValid (reading_ensures _ r rest hr) h
  · cases h

end Transit.Instant
