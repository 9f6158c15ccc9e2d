import Transit.Decimal.Shortest
import Transit.Shape
import Transit.Yaml.Scalar
import Transit.Yaml.Tag

/-!
# What a scalar stands for

A plain scalar is null, a boolean, an integer, a double or a string, by its text alone
(`resolvePlain`). A tag of the core schema asks for one of them (`resolve`).
-/

namespace Transit.Yaml

/-- What stands where something else was expected. -/
inductive Found
  | unit
  | bool (b : Bool)
  | integer (n : Int)
  /-- An integer outside 64 bits. -/
  | wide (n : Int)
  | real (x : Float)
  | string (s : String)
  | sequence
  | map

/-- A double with the fewest digits that read back, never with an exponent. Ties go up. -/
def renderReal (x : Float) : String :=
  if x.isNaN then "NaN"
  else if x.isInf then Decimal.signOf x ++ "inf"
  else Decimal.signOf x ++ (Decimal.shortest .up (Binary.ofFloat x)).positional

/-- The description of what was found. -/
def Found.describe : Found → String
  | unit => "unit value"
  | bool b => "boolean " ++ ShapeError.named (toString b)
  | integer n => "integer " ++ ShapeError.named (toString n)
  | wide n =>
    "integer " ++ ShapeError.named (toString n) ++ if 0 ≤ n then " as u128" else " as i128"
  | real x => "floating point " ++ ShapeError.named (renderReal x)
  | string s => "string " ++ Text.quote s
  | sequence => "sequence"
  | map => "map"

/-! ### Words and integers -/

/-- The words for null. -/
def isNull (s : String) : Bool := ["null", "Null", "NULL", "~"].contains s

/-- The words for the booleans. -/
def boolean? (s : String) : Option Bool :=
  if ["true", "True", "TRUE"].contains s then some true
  else if ["false", "False", "FALSE"].contains s then some false
  else none

/-- The number that digits write in a base, if there are any and all are digits of the base. -/
def digits? (base : Nat) (cs : List Char) : Option Nat :=
  if cs.isEmpty then none
  else cs.foldlM (fun n c => do
    let d ← Text.hexDigit? c
    if d < base then some (base * n + d) else none) 0

/-- Whether a text is a zero with more digits after it, which is no number. -/
def isPaddedZero (cs : List Char) : Bool :=
  let cs := match cs with
    | '-' :: rest | '+' :: rest => rest
    | _ => cs
  match cs with
  | '0' :: d :: rest => (d :: rest).all Char.isDigit
  | _ => false

/-- The magnitude that a text writes, in the base that its first characters tell. -/
def magnitude? (cs : List Char) : Option Nat :=
  match cs with
  | '0' :: 'x' :: rest => digits? 16 rest
  | '0' :: 'o' :: rest => digits? 8 rest
  | '0' :: 'b' :: rest => digits? 2 rest
  | _ => if isPaddedZero cs then none else digits? 10 cs

/-- The integer that a text writes: a sign, perhaps a base, and digits. -/
def integer? (s : String) : Option Int :=
  match s.toList with
  | '+' :: rest => (magnitude? rest).map fun n => (n : Int)
  | '-' :: rest => (magnitude? rest).map fun n => -(n : Int)
  | cs => (magnitude? cs).map fun n => (n : Int)

/-- An integer as something that was found, if 128 bits hold it. -/
def foundInteger? (n : Int) : Option Found :=
  if -0x8000000000000000 ≤ n ∧ n ≤ 0xFFFFFFFFFFFFFFFF then some (.integer n)
  else if -0x80000000000000000000000000000000 ≤ n ∧ n ≤ 0xFFFFFFFFFFFFFFFFFFFFFFFFFFFFFFFF then
    some (.wide n)
  else none

/-! ### Doubles -/

/-- The parts of a decimal number without its sign: the digits before and after the point, and the
exponent. -/
def decimalParts? (cs : List Char) : Option (List Char × List Char × Int) := do
  let whole := cs.takeWhile Char.isDigit
  let rest := cs.dropWhile Char.isDigit
  let (fraction, rest) := match rest with
    | '.' :: rest => (rest.takeWhile Char.isDigit, rest.dropWhile Char.isDigit)
    | _ => ([], rest)
  if whole.isEmpty && fraction.isEmpty then none
  match rest with
  | [] => return (whole, fraction, 0)
  | e :: rest =>
    if e != 'e' && e != 'E' then none
    let (negative, ds) := match rest with
      | '-' :: ds => (true, ds)
      | '+' :: ds => (false, ds)
      | ds => (false, ds)
    let n ← digits? 10 ds
    return (whole, fraction, if negative then -(n : Int) else n)

/-- The double nearest to a decimal number without its sign, if it is finite. Exponents far outside
the range of doubles are decided by the place of the first digit. -/
def nearest? (whole fraction : List Char) (exponent : Int) : Option Float := do
  let ds := whole ++ fraction
  let significand ← digits? 10 ds
  let place : Int := ds.length + exponent - fraction.length
  if significand = 0 ∨ place < -400 then return 0
  if 400 + ds.length < place then none
  let scale := exponent - fraction.length
  let x := Float.ofScientific significand (scale < 0) scale.natAbs
  if x.isInf then none else return x

/-- The double that a text writes. -/
def real? (s : String) : Option Float :=
  let finite (cs : List Char) : Option Float := do
    let (whole, fraction, exponent) ← decimalParts? cs
    nearest? whole fraction exponent
  if [".inf", ".Inf", ".INF", "+.inf", "+.Inf", "+.INF"].contains s then some (1 / 0)
  else if ["-.inf", "-.Inf", "-.INF"].contains s then some (-1 / 0)
  else if [".nan", ".NaN", ".NAN"].contains s then some (0 / 0)
  else match s.toList with
    | '+' :: rest => finite rest
    | '-' :: rest => (finite rest).map fun x => -x
    | cs => finite cs

/-! ### Scalars -/

/-- What a plain scalar stands for. -/
def resolvePlain (s : String) : Found :=
  if s.isEmpty || isNull s then .unit
  else match boolean? s with
    | some b => .bool b
    | none =>
      match (integer? s).bind foundInteger? with
      | some x => x
      | none =>
        match if isPaddedZero s.toList then none else real? s with
        | some x => .real x
        | none => .string s

/-- What a scalar stands for, or what its tag asks for in vain. -/
def resolve (tag : Option Tag) (style : Style) (s : String) : Except (ShapeError Found) Found :=
  let asked (x : Option Found) (what : String) : Except (ShapeError Found) Found :=
    match x with
    | some x => .ok x
    | none => .error (.invalidValue (.string s) what)
  match tag with
  | none => .ok (if style = .plain then resolvePlain s else .string s)
  | some tag =>
    if tag = .core "bool" then asked ((boolean? s).map .bool) "a boolean"
    else if tag = .core "int" then asked ((integer? s).bind foundInteger?) "an integer"
    else if tag = .core "float" then asked ((real? s).map .real) "a float"
    else if tag = .core "null" then asked (if isNull s then some .unit else none) "null"
    else if tag.isLocal && style == .plain then .ok (resolvePlain s)
    else .ok (.string s)

end Transit.Yaml
