/-!
# Shortest decimals

A finite double stands for the interval of reals that round to it. `Decimal.shortest` finds the
decimal of fewest digits in that interval, and of those the nearest to the double. Where two are
equally near, a `Tie` decides.

* `Binary` is a positive double as `m · 2 ^ q`, with what bounds its interval.
* For 1, 2, … 17 digits the two neighbours of the double on the grid of that many digits are tried;
  if a point of the grid lies in the interval, so does one of the two.
-/

namespace Transit

/-- Which of two neighbours on a grid is taken when a number stands halfway between them. -/
inductive Tie
  | even
  | up
  deriving DecidableEq, Repr

/-- Whether the lower neighbour `c` is taken. -/
def Tie.takesLower (t : Tie) (c : Nat) : Bool :=
  match t with
  | even => c % 2 == 0
  | up => false

/-- The number `digits · 10 ^ exponent`. -/
structure Decimal where
  digits : Nat
  exponent : Int
  deriving DecidableEq, Repr

/-- The positive number `mantissa · 2 ^ exponent`, with the distance to its lower neighbour halved
when `narrow`. -/
structure Binary where
  mantissa : Nat
  exponent : Int
  narrow : Bool
  deriving DecidableEq, Repr

/-- A whole power; one for an exponent below zero. -/
def power (base : Nat) (e : Int) : Nat := Nat.pow base e.toNat

namespace Binary

/-- The magnitude of a finite double: 52 bits of fraction below 11 bits of exponent, and a leading
bit that is not stored unless the exponent is zero. -/
def ofFloat (x : Float) : Binary :=
  let fraction := x.toBits.toNat % 0x10000000000000
  let exponent := x.toBits.toNat / 0x10000000000000 % 0x800
  if exponent = 0 then ⟨fraction, -1074, false⟩
  else ⟨0x10000000000000 + fraction, (exponent : Int) - 1075, fraction = 0 ∧ 1 < exponent⟩

/-- Compare `c · 10 ^ s` with a quarter of `k · 2 ^ exponent`. -/
def compareQuarter (b : Binary) (c : Nat) (s : Int) (k : Nat) : Ordering :=
  let e := b.exponent - 2
  compare (c * power 10 s * power 2 (-e)) (k * power 2 e * power 10 (-s))

/-- Whether `c · 10 ^ s` rounds to the number. The ends of the interval do when the mantissa is
even. -/
def covers (b : Binary) (c : Nat) (s : Int) : Bool :=
  let low := if b.narrow then 4 * b.mantissa - 1 else 4 * b.mantissa - 2
  let high := 4 * b.mantissa + 2
  match b.compareQuarter c s low, b.compareQuarter c s high with
  | .gt, .lt => true
  | .eq, _ | _, .eq => b.mantissa % 2 == 0
  | _, _ => false

/-- The greatest `e` with `10 ^ e` not above the number. -/
def magnitude (b : Binary) : Int :=
  let n := b.mantissa * power 2 b.exponent * power 5 (-b.exponent)
  (Nat.toDigits 10 n).length - 1 - (-b.exponent).toNat

/-- The greatest multiple of `10 ^ s` that is not above the number, in units of it. -/
def floorAt (b : Binary) (s : Int) : Nat :=
  (b.mantissa * power 2 b.exponent * power 10 (-s)) / (power 2 (-b.exponent) * power 10 s)

/-- Whether `c · 10 ^ s` is taken for the number, and not the next point of the grid. -/
def takesLower (tie : Tie) (b : Binary) (c : Nat) (s : Int) : Bool :=
  let e := b.exponent - 2
  let point := (2 * c + 1) * power 10 s * power 2 (-e)
  let number := 8 * b.mantissa * power 2 e * power 10 (-s)
  number < point || (number == point && tie.takesLower c)

/-- The point of the grid of `10 ^ s` that rounds to the number and is nearest to it. -/
def onGrid? (tie : Tie) (b : Binary) (s : Int) : Option Decimal :=
  let c := b.floorAt s
  match b.covers c s, b.covers (c + 1) s with
  | true, true => some ⟨if b.takesLower tie c s then c else c + 1, s⟩
  | true, false => some ⟨c, s⟩
  | false, true => some ⟨c + 1, s⟩
  | false, false => none

end Binary

namespace Decimal

/-- The decimal without the zeros at the end of its digits, of which there are at most `fuel`. -/
def strip (fuel : Nat) (d : Decimal) : Decimal :=
  match fuel with
  | 0 => d
  | fuel + 1 =>
    if d.digits ≠ 0 ∧ d.digits % 10 = 0 then strip fuel ⟨d.digits / 10, d.exponent + 1⟩ else d

/-- The shortest decimal that rounds to a positive number; zero for zero. -/
def shortest (tie : Tie) (b : Binary) : Decimal :=
  if b.mantissa = 0 then ⟨0, 0⟩
  else
    let e := b.magnitude
    let found := (List.range 17).findSome? fun (n : Nat) => b.onGrid? tie (e - (n : Int))
    (found.getD ⟨b.floorAt (e - 16), e - 16⟩).strip 18

/-- The sign that a double is written with. -/
def signOf (x : Float) : String := if 0x8000000000000000 ≤ x.toBits then "-" else ""

/-- The exponent of the first digit. -/
def leading (d : Decimal) : Int := d.exponent + ((Nat.toDigits 10 d.digits).length - 1)

/-- The decimal without an exponent, with `.0` after a whole number. -/
def positional (d : Decimal) : String :=
  let ds := Nat.toDigits 10 d.digits
  if 0 ≤ d.exponent then
    String.ofList (ds ++ List.replicate d.exponent.toNat '0') ++ ".0"
  else
    let places := (-d.exponent).toNat
    if places < ds.length then
      String.ofList (ds.take (ds.length - places)) ++ "."
        ++ String.ofList (ds.drop (ds.length - places))
    else "0." ++ String.ofList (List.replicate (places - ds.length) '0' ++ ds)

/-- The decimal with one digit before the point, if there are others, and a signed exponent. -/
def scientific (d : Decimal) : String :=
  let e := d.leading
  let mantissa := match Nat.toDigits 10 d.digits with
    | [] => ""
    | [c] => c.toString
    | c :: rest => c.toString ++ "." ++ String.ofList rest
  mantissa ++ (if e < 0 then "e-" else "e+") ++ toString e.natAbs

end Decimal

end Transit
