import Transit.Calendar

/-!
# Instants

An instant is kept in universal time, to the nanosecond. A leap second is the second before it
with a billion nanoseconds and more.

* `Instant.shift?` moves a local time to universal time.
* `Instant.render` writes the date, the time and the fewest of 0, 3, 6 or 9 digits of the fraction
  that lose nothing.
-/

namespace Transit

/-- A nanosecond of universal time. -/
structure Instant where
  date : Date
  /-- The second of the day. -/
  second : Nat
  /-- From a billion upwards inside a leap second. -/
  nanos : Nat
  deriving DecidableEq, Repr

/-- The seconds of a day. -/
def secondsPerDay : Nat := 86400

/-- The nanoseconds of a second. -/
def nanosPerSecond : Nat := 1000000000

namespace Instant

/-- The instant of a local time that is `offset` seconds, less than a day, ahead of universal
time. -/
def shift? (t : Instant) (offset : Int) : Option Instant :=
  let second := (t.second : Int) - offset
  if second < 0 then
    t.date.previous?.map fun d => { t with date := d, second := (second + secondsPerDay).toNat }
  else if second < secondsPerDay then some { t with second := second.toNat }
  else t.date.next?.map fun d => { t with date := d, second := (second - secondsPerDay).toNat }

/-! ### Written form -/

/-- A number with zeros before it up to a width. -/
def padded (width n : Nat) : String :=
  let digits := toString n
  String.ofList (List.replicate (width - digits.length) '0') ++ digits

/-- A year: four digits, and a sign when it needs more or is negative. -/
def renderYear (year : Int) : String :=
  if 0 ≤ year ∧ year ≤ 9999 then padded 4 year.toNat
  else (if year < 0 then "-" else "+") ++ padded 4 year.natAbs

/-- The digits after the second: none, or a point and as many groups of three as are needed. -/
def renderFraction (nanos : Nat) : String :=
  if nanos = 0 then ""
  else if nanos % 1000000 = 0 then "." ++ padded 3 (nanos / 1000000)
  else if nanos % 1000 = 0 then "." ++ padded 6 (nanos / 1000)
  else "." ++ padded 9 nanos

/-- Date and time with a mark for the offset zero. -/
def render (zone : String) (t : Instant) : String :=
  let leap := if t.nanos < nanosPerSecond then 0 else 1
  renderYear t.date.year ++ "-" ++ padded 2 t.date.month ++ "-" ++ padded 2 t.date.day ++ "T"
    ++ padded 2 (t.second / 3600) ++ ":" ++ padded 2 (t.second / 60 % 60) ++ ":"
    ++ padded 2 (t.second % 60 + leap) ++ renderFraction (t.nanos % nanosPerSecond) ++ zone

end Instant

end Transit
