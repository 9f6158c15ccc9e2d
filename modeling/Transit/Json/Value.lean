/-!
# JSON values

A value keeps the members of an object as they are written, repeated keys included.

* `lastMembers` is the object as a table: ascending by key, the last member of a key winning.
* `NoRepeats` says that no object inside a value has a key twice.
-/

namespace Transit.Json

/-- An integer of 64 bits, signed or not, or a double. -/
inductive Number
  | integer (n : Int)
  | real (x : Float)

/-- A JSON value. -/
inductive Value
  | null
  | bool (b : Bool)
  | number (x : Number)
  | string (s : String)
  | array (items : List Value)
  | object (members : List (String × Value))

instance : Inhabited Value := ⟨.null⟩

/-- Put a member into a list that ascends by key, over an earlier member of the same key. -/
def putMember {α : Type} (key : String) (a : α) : List (String × α) → List (String × α)
  | [] => [(key, a)]
  | (k, b) :: rest =>
    if key < k then (key, a) :: (k, b) :: rest
    else if key = k then (key, a) :: rest
    else (k, b) :: putMember key a rest

/-- The members ascending by key, the last one of every key. -/
def lastMembers {α : Type} (members : List (String × α)) : List (String × α) :=
  members.foldl (fun table m => putMember m.1 m.2 table) []

namespace Value

mutual

/-- No object in the value has a key twice. -/
def NoRepeats : Value → Prop
  | array items => NoRepeatsItems items
  | object members => (members.map Prod.fst).Nodup ∧ NoRepeatsMembers members
  | _ => True

/-- No object in one of the items has a key twice. -/
def NoRepeatsItems : List Value → Prop
  | [] => True
  | v :: rest => NoRepeats v ∧ NoRepeatsItems rest

/-- No object in one of the members has a key twice. -/
def NoRepeatsMembers : List (String × Value) → Prop
  | [] => True
  | (_, v) :: rest => NoRepeats v ∧ NoRepeatsMembers rest

end

/-- The integer as a value. -/
def ofInt (n : Int) : Value := .number (.integer n)

/-- The strings as an array. -/
def ofStrings (ss : List String) : Value := .array (ss.map .string)

/-- The member under a key of an object, the last one if there are several. -/
def get? (v : Value) (key : String) : Option Value :=
  match v with
  | object members => (members.findRev? fun m => m.1 == key).map Prod.snd
  | _ => none

end Value

end Transit.Json
