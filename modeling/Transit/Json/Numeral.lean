import Transit.Json.Error
import Transit.Text.Digits

/-!
# Numbers in JSON text

* `Numeral.lex` reads the parts of a number and checks their grammar.
* `Numeral.number` is the number they write: an integer when it has no fraction and no exponent and
  fits into 64 bits, a double otherwise.
-/

namespace Transit.Json

/-- The parts of a written number; digits are digit characters. -/
structure Numeral where
  negative : Bool
  whole : List Char
  fraction : Option (List Char)
  /-- The sign of the exponent (`true` for minus) and its digits. -/
  exponent : Option (Bool × List Char)
  deriving DecidableEq, Repr

namespace Numeral

/-- Read the digits in front, at least one. A text that ends here is refused with `ended`. -/
def digits (ended : ReadError) (cs : List Char) : Except ReadError (List Char × List Char) :=
  match cs with
  | [] => .error ended
  | c :: _ =>
    if c.isDigit then .ok (cs.takeWhile Char.isDigit, cs.dropWhile Char.isDigit)
    else .error (.grammar .invalidNumber)

/-- Read the digits before the point, among which a leading zero stands alone. -/
def wholePart (ended : ReadError) (cs : List Char) : Except ReadError (List Char × List Char) :=
  match cs with
  | '0' :: rest =>
    if rest.head?.any Char.isDigit then .error (.grammar .invalidNumber) else .ok (['0'], rest)
  | _ => digits ended cs

/-- Read a point and the digits after it, if there is a point. -/
def fractionPart (ended : ReadError) (cs : List Char) :
    Except ReadError (Option (List Char) × List Char) :=
  match cs with
  | '.' :: rest => do
    let (ds, rest) ← digits ended rest
    return (some ds, rest)
  | _ => .ok (none, cs)

/-- Read a sign, if there is one; `true` is minus. -/
def signPart : List Char → Bool × List Char
  | '-' :: rest => (true, rest)
  | '+' :: rest => (false, rest)
  | cs => (false, cs)

/-- Read an exponent, if there is one. -/
def exponentPart (ended : ReadError) (cs : List Char) :
    Except ReadError (Option (Bool × List Char) × List Char) :=
  match cs with
  | c :: rest =>
    if c = 'e' ∨ c = 'E' then do
      let (ds, rest') ← digits ended (signPart rest).2
      return (some ((signPart rest).1, ds), rest')
    else .ok (none, cs)
  | [] => .ok (none, cs)

/-- Read the parts of a number after its sign. -/
def lexUnsigned (ended : ReadError) (negative : Bool) (cs : List Char) :
    Except ReadError (Numeral × List Char) := do
  let (whole, cs) ← wholePart ended cs
  let (fraction, cs) ← fractionPart ended cs
  let (exponent, cs) ← exponentPart ended cs
  return (⟨negative, whole, fraction, exponent⟩, cs)

/-- Read the parts of a number. A text that ends inside it is refused with `ended`. -/
def lex (ended : ReadError) (cs : List Char) : Except ReadError (Numeral × List Char) :=
  match cs with
  | '-' :: rest => lexUnsigned ended true rest
  | _ => lexUnsigned ended false cs

theorem length_digits {ended : ReadError} {cs ds rest : List Char}
    (h : digits ended cs = .ok (ds, rest)) : rest.length < cs.length := by
  unfold digits at h
  split at h
  · cases h
  · split at h
    · rename_i c cs hc
      injection h with h
      injection h with h₁ h₂
      subst h₂
      rw [List.dropWhile_cons_of_pos hc]
      exact Nat.lt_succ_of_le (List.dropWhile_sublist _).length_le
    · cases h

theorem length_wholePart {ended : ReadError} {cs ds rest : List Char}
    (h : wholePart ended cs = .ok (ds, rest)) : rest.length < cs.length := by
  unfold wholePart at h
  split at h
  · split at h
    · cases h
    · injection h with h
      injection h with h₁ h₂
      subst h₂
      exact Nat.lt_succ_self _
  · exact length_digits h

theorem length_fractionPart {ended : ReadError} {cs rest : List Char} {f : Option (List Char)}
    (h : fractionPart ended cs = .ok (f, rest)) : rest.length ≤ cs.length := by
  unfold fractionPart at h
  split at h
  · rename_i rest'
    cases hd : digits ended rest' with
    | error e => rw [hd] at h; cases h
    | ok p =>
      rw [hd] at h
      cases h
      exact Nat.le_succ_of_le (Nat.le_of_lt (length_digits hd))
  · cases h
    exact Nat.le_refl _

theorem length_signPart (cs : List Char) : (signPart cs).2.length ≤ cs.length := by
  unfold signPart
  split <;> simp

theorem length_exponentPart {ended : ReadError} {cs rest : List Char}
    {e : Option (Bool × List Char)} (h : exponentPart ended cs = .ok (e, rest)) :
    rest.length ≤ cs.length := by
  unfold exponentPart at h
  split at h
  · rename_i c cs
    split at h
    · cases hd : digits ended (signPart cs).2 with
      | error e => rw [hd] at h; cases h
      | ok p =>
        rw [hd] at h
        cases h
        exact Nat.le_succ_of_le
          (Nat.le_trans (Nat.le_of_lt (length_digits hd)) (length_signPart cs))
    · cases h
      exact Nat.le_refl _
  · cases h
    exact Nat.le_refl _

theorem length_lexUnsigned {ended : ReadError} {negative : Bool} {cs rest : List Char}
    {n : Numeral} (h : lexUnsigned ended negative cs = .ok (n, rest)) :
    rest.length < cs.length := by
  unfold lexUnsigned at h
  cases hw : wholePart ended cs with
  | error e => rw [hw] at h; cases h
  | ok w =>
    obtain ⟨w, r₁⟩ := w
    cases hf : fractionPart ended r₁ with
    | error e => simp only [hw, bind, Except.bind, hf] at h; cases h
    | ok f =>
      obtain ⟨f, r₂⟩ := f
      cases he : exponentPart ended r₂ with
      | error e => simp only [hw, bind, Except.bind, hf, he] at h; cases h
      | ok e =>
        simp only [hw, bind, Except.bind, hf, he] at h
        cases h
        exact Nat.lt_of_le_of_lt (Nat.le_trans (length_exponentPart he) (length_fractionPart hf))
          (length_wholePart hw)

theorem length_lex {ended : ReadError} {cs rest : List Char} {n : Numeral}
    (h : lex ended cs = .ok (n, rest)) : rest.length < cs.length := by
  unfold lex at h
  split at h
  · exact Nat.lt_succ_of_lt (length_lexUnsigned h)
  · exact length_lexUnsigned h

/-! ### The number written -/

/-- Append digits to a number as long as it fits into 64 bits, and return the others. -/
def absorb (n : Nat) : List Char → Nat × List Char
  | [] => (n, [])
  | c :: rest =>
    let next := 10 * n + Text.digitValue c
    if next ≤ 0xFFFFFFFFFFFFFFFF then absorb next rest else (n, c :: rest)

/-- The double nearest to a power of ten from `10 ^ 0` to `10 ^ 308`. -/
def powerOfTen (e : Nat) : Float := Float.ofScientific 1 false e

/-- The double divided by `10 ^ e`, at most `10 ^ 308` at a time. -/
def divideByPower (x : Float) (e : Nat) : Float :=
  if e ≤ 308 then x / powerOfTen e
  else if x == 0 then x
  else divideByPower (x / powerOfTen 308) (e - 308)
termination_by e

/-- The double of `n · 10 ^ e`, rounded once for the number and once for the power. -/
def scale (n : Nat) (e : Int) : Except ReadError Float :=
  let x := (UInt64.ofNat n).toFloat
  if e < 0 then .ok (divideByPower x e.natAbs)
  else if e ≤ 308 then
    let y := x * powerOfTen e.toNat
    if y.isInf then .error (.grammar .numberOutOfRange) else .ok y
  else if n = 0 then .ok x
  else .error (.grammar .numberOutOfRange)

/-- The magnitude as a double. Digits that do not fit into 64 bits count as zeros before the point
and are dropped after it. -/
def magnitude (n : Numeral) : Except ReadError Float :=
  let (significand, dropped) := absorb 0 n.whole
  let fraction := n.fraction.getD []
  let (significand, unused) := absorb significand fraction
  let point : Int := dropped.length - (fraction.length - unused.length : Nat)
  match n.exponent with
  | none => scale significand point
  | some (negative, ds) =>
    let e := Text.ofDigits ds
    if 2147483647 < e then
      if significand ≠ 0 ∧ !negative then .error (.grammar .numberOutOfRange) else .ok 0
    else scale significand (if negative then point - e else point + e)

/-- The number that the parts write. -/
def number (n : Numeral) : Except ReadError Number :=
  let whole := Text.ofDigits n.whole
  if n.fraction.isNone ∧ n.exponent.isNone ∧ !n.negative ∧ whole ≤ 0xFFFFFFFFFFFFFFFF then
    .ok (.integer whole)
  else if n.fraction.isNone ∧ n.exponent.isNone ∧ n.negative ∧ 0 < whole
      ∧ whole ≤ 0x8000000000000000 then
    .ok (.integer (-whole))
  else do
    let x ← n.magnitude
    return .real (if n.negative then -x else x)

end Numeral

end Transit.Json
