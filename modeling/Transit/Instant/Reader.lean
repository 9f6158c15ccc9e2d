import Transit.Instant.Basic
import Transit.Text.Blank
import Transit.Text.Digits

/-!
# Reading instants

Date and time in the relaxed form of RFC 3339: numbers need not be padded, white space may stand
before numbers, marks and the offset, and the date may be parted from the time by a space.

* `Scan` reads from the front of a text and fails with the first thing wrong.
* `Instant.ofString` reads a whole text.
-/

namespace Transit

/-- Why a text is no instant. -/
inductive InstantError
  /-- The text ends too early. -/
  | premature
  /-- A character stands where it must not. -/
  | invalid
  /-- There is no such date, time or offset. -/
  | outOfRange
  /-- Something follows the instant. -/
  | trailing
  /-- The instant lies outside the range of dates. -/
  | impossible
  deriving DecidableEq, Repr

/-- The wording of the error. -/
def InstantError.message : InstantError → String
  | .premature => "premature end of input"
  | .invalid => "input contains invalid characters"
  | .outOfRange => "input is out of range"
  | .trailing => "trailing input"
  | .impossible => "no possible date and time matching input"

namespace Instant

open Transit.Text

/-- Reading from the front of a text. -/
abbrev Scan := StateT (List Char) (Except InstantError)

/-- Skip white space. -/
def blanks : Scan Unit := modify trimStart

/-- The character in front, which stays. -/
def peek? : Scan (Option Char) := return (← get).head?

/-- Read one given character. -/
def mark (c : Char) : Scan Unit := do
  match ← get with
  | [] => throw .premature
  | d :: rest => if d = c then set rest else throw .invalid

/-- Read the digits in front, at least one and at most `width`. -/
def digits (width : Nat) : Scan (List Char) := do
  let cs ← get
  let ds := (cs.take width).takeWhile Char.isDigit
  if cs.isEmpty then throw .premature
  if ds.isEmpty then throw .invalid
  set (cs.drop ds.length)
  return ds

/-- Read a number of at most two digits between two bounds. -/
def field (low high : Nat) : Scan Nat := do
  blanks
  let n := ofDigits (← digits 2)
  if n < low ∨ high < n then throw .outOfRange
  return n

/-- Read all digits in front, at least one. -/
def allDigits : Scan Nat := do return ofDigits (← digits (← get).length)

/-- Read a year: up to four digits, or any number of them after a sign. -/
def year : Scan Int := do
  blanks
  let n : Int ← match ← peek? with
    | some '-' => do modify List.tail; pure (-(← allDigits : Nat))
    | some '+' => do modify List.tail; pure (← allDigits : Nat)
    | _ => pure (ofDigits (← digits 4))
  if n < -2147483648 ∨ 2147483647 < n then throw .outOfRange
  return n

/-- Read the nanoseconds after a point, if there is one. Digits after the ninth are dropped. -/
def fraction : Scan Nat := do
  match ← peek? with
  | some '.' => do
    modify List.tail
    let ds ← digits 9
    modify (List.dropWhile Char.isDigit)
    return ofDigits (ds ++ List.replicate (9 - ds.length) '0')
  | _ => return 0

/-- Two characters in front, unless the text has fewer than two bytes left. -/
def twoDigits : Scan Nat := do
  match ← get with
  | [] => throw .premature
  | [c] => if c.utf8Size < 2 then throw .premature else throw .invalid
  | a :: b :: rest =>
    if a.isDigit ∧ b.isDigit then
      set rest
      return ofDigits [a, b]
    else throw .invalid

/-- Read an offset from universal time, in seconds: a letter for none, or a sign, hours and
minutes. -/
def offset : Scan Int := do
  blanks
  let cs ← get
  if (cs.take 3).map Char.toLower = ['u', 't', 'c'] then
    set (cs.drop 3)
    return 0
  match cs with
  | [] => throw .premature
  | c :: rest =>
    if c = 'z' ∨ c = 'Z' then
      set rest
      return 0
    unless c = '+' ∨ c = '-' ∨ c = '\u2212' do throw .invalid
    set rest
    let hours ← twoDigits
    modify (List.dropWhile fun c => c = ':' || isBlank c)
    let minutes ← twoDigits
    if 60 ≤ minutes then throw .outOfRange
    let seconds : Int := (3600 * hours + 60 * minutes : Nat)
    return if c = '+' then seconds else -seconds

/-- A date and time as read, before it is known that the calendar has it. -/
structure Reading where
  date : Date
  /-- The second of the day, a leap second counting as the one before it. -/
  second : Nat
  nanos : Nat
  offset : Int

/-- Read a date, a separator, a time and an offset. -/
def reading : Scan Reading := do
  let year ← year
  blanks
  mark '-'
  let month ← field 1 12
  blanks
  mark '-'
  let day ← field 1 31
  match ← get with
  | [] => throw .premature
  | c :: rest => if c = 'T' ∨ c = 't' ∨ c = ' ' then set rest else throw .invalid
  let hour ← field 0 23
  blanks
  mark ':'
  let minute ← field 0 59
  blanks
  mark ':'
  let second ← field 0 60
  let nanos ← fraction
  let offset ← offset
  return {
    date := ⟨year, month, day⟩
    second := 3600 * hour + 60 * minute + min second 59
    nanos := if second = 60 then nanos + nanosPerSecond else nanos
    offset := offset }

/-- The instant of a reading, if the calendar has it. -/
def ofReading (r : Reading) : Except InstantError Instant :=
  if ¬ r.date.IsValid ∨ secondsPerDay ≤ r.offset.natAbs then .error .outOfRange
  else match shift? ⟨r.date, r.second, r.nanos⟩ r.offset with
    | some t => .ok t
    | none => .error .impossible

/-- Read a whole text. -/
def ofString (s : String) : Except InstantError Instant := do
  let (r, rest) ← reading.run s.toList
  if (trimStart rest).isEmpty then ofReading r else throw .trailing

end Instant

end Transit
