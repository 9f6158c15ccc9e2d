import Transit.Json.Value
import Transit.Decimal.Shortest
import Transit.Text.Quoted

/-!
# Writing JSON

* `Number.render` writes doubles with the fewest digits that read back.
* `Value.render` writes a value without white space.
-/

namespace Transit.Json

/-- A double with the fewest digits that read back: positional from `0.00001` up to below
`10 ^ 16`, scientific outside. Ties go to the even digit. -/
def renderReal (x : Float) : String :=
  let d := Decimal.shortest .even (Binary.ofFloat x)
  Decimal.signOf x ++ if -5 ≤ d.leading ∧ d.leading ≤ 15 then d.positional else d.scientific

/-- The written form of a number. -/
def Number.render : Number → String
  | .integer n => toString n
  | .real x => renderReal x

/-- The form of a character inside a JSON string. -/
def escape (c : Char) : String :=
  if c = '"' then "\\\""
  else if c = '\\' then "\\\\"
  else if c.toNat < 0x20 then
    let digits := Text.hex c.toNat
    "\\u" ++ String.ofList (List.replicate (4 - digits.length) '0') ++ digits
  else c.toString

/-- A JSON string. -/
def renderString (s : String) : String :=
  s.toList.foldl (fun out c => out ++ escape c) "\"" ++ "\""

namespace Value

mutual

/-- The value as JSON text without white space. -/
def render : Value → String
  | null => "null"
  | bool b => if b then "true" else "false"
  | number x => x.render
  | string s => renderString s
  | array items => "[" ++ renderItems items ++ "]"
  | object members => "\x7b" ++ renderMembers members ++ "\x7d"

/-- Items, parted by commas. -/
def renderItems : List Value → String
  | [] => ""
  | [v] => v.render
  | v :: rest => v.render ++ "," ++ renderItems rest

/-- Members, parted by commas. -/
def renderMembers : List (String × Value) → String
  | [] => ""
  | [(k, v)] => renderString k ++ ":" ++ v.render
  | (k, v) :: rest => renderString k ++ ":" ++ v.render ++ "," ++ renderMembers rest

end

end Value

end Transit.Json
