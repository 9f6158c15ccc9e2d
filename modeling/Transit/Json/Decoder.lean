import Transit.Json.Skip

/-!
# Decoders

A decoder takes data of one shape from a finished value (`ofValue`) and straight from text
(`ofText`). A text is refused at the first thing wrong from left to right, so a wrong shape may be
reported before a breach of the grammar behind it.

* Scalars: `string`, `natural32`, `bool`.
* `choice` takes one of several names, written as a string or as the only key of an object.
* `optional`, `list` and `refine` build on another decoder.
-/

namespace Transit.Json

/-- A way to take data of one shape from JSON. -/
structure Decoder (α : Type) where
  ofValue : Value → Except Mismatch α
  ofText : Reader α

namespace Decoder

variable {α β : Type}

/-- A string. -/
def string (expected : String) : Decoder String where
  ofValue
    | .string s => .ok s
    | v => .error (.invalidType (.ofValue v) expected)
  ofText := atFront .value fun c rest =>
    if c = '"' then do return (← text rest).behind c
    else .error (unexpected expected (c :: rest))

/-- A boolean. -/
def bool : Decoder Bool where
  ofValue
    | .bool b => .ok b
    | v => .error (.invalidType (.ofValue v) "a boolean")
  ofText := atFront .value fun c rest =>
    if c = 't' then readWord true ['r', 'u', 'e'] c rest
    else if c = 'f' then readWord false ['a', 'l', 's', 'e'] c rest
    else .error (unexpected "a boolean" (c :: rest))

/-- A number as a natural number of 32 bits. -/
def narrow : Number → Except Mismatch UInt32
  | .integer n =>
    if 0 ≤ n ∧ n < 4294967296 then .ok (UInt32.ofNat n.toNat)
    else .error (.invalidValue (.number (.integer n)) "u32")
  | .real x => .error (.invalidType (.number (.real x)) "u32")

/-- A natural number of 32 bits. -/
def natural32 : Decoder UInt32 where
  ofValue
    | .number x => narrow x
    | v => .error (.invalidType (.ofValue v) "u32")
  ofText := atFront .value fun c rest =>
    if c = '-' ∨ c.isDigit then do
      let x ← number (c :: rest)
      match narrow x.value with
      | .ok n => return x.map fun _ => n
      | .error e => throw (.data e)
    else .error (unexpected "u32" (c :: rest))

/-! ### One of several names -/

/-- The value under a name of a table. -/
def named (table : List (String × α)) (name : String) : Except Mismatch α :=
  match table.lookup name with
  | some a => .ok a
  | none => .error (.unknownVariant name (table.map Prod.fst))

/-- Read the `null` that goes with a name in an object. -/
def unit : Reader Unit := atFront .value fun c rest =>
  if c = 'n' then readWord () ['u', 'l', 'l'] c rest
  else .error (unexpected "unit" (c :: rest))

/-- Read a name behind its opening quote. -/
def readName (table : List (String × α)) : Reader α := fun cs => do
  let s ← text cs
  match named table s.value with
  | .ok a => return s.map fun _ => a
  | .error e => throw (.data e)

/-- Read a name as the key of an object that must not be empty. -/
def readNameKey (table : List (String × α)) : Reader α := atFront .object fun c rest =>
  if c = '"' then do return (← readName table rest).behind c
  else .error (.grammar (if c = '\x7d' then .expectedValue else .keyMustBeString))

/-- Read the end of an object of one member. -/
def closeObject : Reader Unit := atFront .object fun c rest =>
  if c = '}' then .ok (.front () c rest) else .error (.grammar .expectedValue)

/-- One of several names: as a string, or as the key of an object of one member that is null. -/
def choice (table : List (String × α)) : Decoder α where
  ofValue
    | .string s => named table s
    | .object members =>
      match lastMembers members with
      | [(name, v)] => do
        let a ← named table name
        match v with
        | .null => return a
        | v => throw (.invalidType (.ofValue v) "unit")
      | _ => .error (.invalidValue .map "map with a single key")
    | v => .error (.invalidType (.ofValue v) "string or map")
  ofText := atFront .value fun c rest =>
    if c = '"' then do return (← readName table rest).behind c
    else if c = '{' then do
      let name ← readNameKey table rest
      let null ← afterColon unit name.rest
      let done ← closeObject null.rest
      let behindName := (done.widen (Nat.le_of_lt null.shorter)).widen (Nat.le_of_lt name.shorter)
      return (behindName.map fun _ => name.value).behind c
    else .error (.grammar .expectedValue)

/-! ### Decoders from decoders -/

/-- The data of a decoder, or null for none. -/
def optional (d : Decoder α) : Decoder (Option α) where
  ofValue
    | .null => .ok none
    | v => (d.ofValue v).map some
  ofText := atFront .value fun c rest =>
    if c = 'n' then readWord none ['u', 'l', 'l'] c rest
    else do return (← d.ofText (c :: rest)).map some

/-- The data of a decoder that stands for something else, unless that refuses it. -/
def refine (d : Decoder α) (f : α → Except String β) : Decoder β where
  ofValue v := do
    match f (← d.ofValue v) with
    | .ok b => return b
    | .error reason => throw (.refused reason)
  ofText := fun cs => do
    let a ← d.ofText cs
    match f a.value with
    | .ok b => return a.map fun _ => b
    | .error reason => throw (.data (.refused reason))

/-- Read the items of a list and its closing bracket. -/
def readItems (r : Reader α) (first : Bool) (cs : List Char) :
    Except ReadError (Read (List α) cs) :=
  match h : nextItem first cs with
  | .error e => .error e
  | .ok none => do return (← closeList cs).map fun _ => []
  | .ok (some item) =>
    match r item with
    | .error e => .error e
    | .ok a =>
      have ha : a.rest.length < cs.length := Nat.lt_of_lt_of_le a.shorter (length_nextItem h)
      match readItems r false a.rest with
      | .error e => .error e
      | .ok as => .ok ((as.map (a.value :: ·)).widen (Nat.le_of_lt ha))
termination_by cs.length

/-- A list. -/
def list (d : Decoder α) : Decoder (List α) where
  ofValue
    | .array items => items.mapM d.ofValue
    | v => .error (.invalidType (.ofValue v) "a sequence")
  ofText := atFront .value fun c rest =>
    if c = '[' then do return (← readItems d.ofText true rest).behind c
    else .error (unexpected "a sequence" (c :: rest))

/-- The data of a whole text. -/
def run (d : Decoder α) (s : String) : Except ReadError α := readAll d.ofText s.toList

end Decoder

end Transit.Json
