import Transit.Json.Decoder

/-!
# Records

A record is written as an object with a key for every field, or as an array of the fields in
order. `Decoder.record` takes it from either form.

* Keys that are no field are passed over.
* A field that is missing takes its default; without one the record is refused, with the first such
  field in order named.
* `Slots` are the fields met so far.
-/

namespace Transit.Json

/-- The fields of a record, in order, with the type of all of them together. -/
inductive Fields : Type → Type 1
  | done : Fields Unit
  | field {α β : Type} (key : String) (decoder : Decoder α) (default? : Option α)
      (others : Fields β) : Fields (α × β)

namespace Fields

/-- The number of fields. -/
def count : {τ : Type} → Fields τ → Nat
  | _, done => 0
  | _, field _ _ _ others => others.count + 1

/-- The fields of a record as far as they have been met. -/
def Slots : {τ : Type} → Fields τ → Type
  | _, done => Unit
  | _, @field α _ _ _ _ others => Option α × others.Slots

/-- No field has been met. -/
def noSlots : {τ : Type} → (fs : Fields τ) → fs.Slots
  | _, done => ()
  | _, field _ _ _ others => (none, others.noSlots)

/-- The record of the fields met and the defaults of the others. -/
def complete : {τ : Type} → (fs : Fields τ) → fs.Slots → Except Mismatch τ
  | _, done, _ => .ok ()
  | _, @field α _ key _ default? others, slots =>
    let slots : Option α × others.Slots := slots
    match slots.1 <|> default? with
    | none => .error (.missingField key)
    | some a => (others.complete slots.2).map (a, ·)

/-! ### From a value -/

/-- Take a member of an object into its slot. -/
def fillValue (name : String) (v : Value) :
    {τ : Type} → (fs : Fields τ) → fs.Slots → Except Mismatch fs.Slots
  | _, done, slots => .ok slots
  | _, @field α _ key decoder _ others, slots =>
    let slots : Option α × others.Slots := slots
    if name = key then
      if slots.1.isSome then .error (.duplicateField key)
      else (decoder.ofValue v).map fun a => (some a, slots.2)
    else (others.fillValue name v slots.2).map (slots.1, ·)

/-- Take the members of an object into their slots, one after the other. -/
def fillMembers {τ : Type} (fs : Fields τ) (slots : fs.Slots) :
    List (String × Value) → Except Mismatch fs.Slots
  | [] => .ok slots
  | (name, v) :: rest => do fillMembers fs (← fs.fillValue name v slots) rest

/-- The record of an array of fields. `before` fields come before these, and `expected` names the
record with its number of fields. -/
def ofItems (expected : String) (size before : Nat) :
    {τ : Type} → Fields τ → List Value → Except Mismatch τ
  | _, done, [] => .ok ()
  | _, done, _ :: _ => .error (.invalidLength size "fewer elements in array")
  | _, field _ _ default? others, [] =>
    match default? with
    | none => .error (.invalidLength before expected)
    | some a => (others.ofItems expected size (before + 1) []).map (a, ·)
  | _, field _ decoder _ others, v :: rest => do
    let a ← decoder.ofValue v
    (others.ofItems expected size (before + 1) rest).map (a, ·)

/-! ### From text -/

/-- Read the colon and the value behind a key into its slot. -/
def fillText (name : String) :
    {τ : Type} → (fs : Fields τ) → fs.Slots → Reader fs.Slots
  | _, done, slots => fun cs => do return (← afterColon skip cs).map fun _ => slots
  | _, @field α _ key decoder _ others, slots => fun cs =>
    let slots : Option α × others.Slots := slots
    if name = key then
      if slots.1.isSome then .error (.data (.duplicateField key))
      else do return (← afterColon decoder.ofText cs).map fun a => (some a, slots.2)
    else do return (← others.fillText name slots.2 cs).map (slots.1, ·)

/-- Read the members of an object into their slots, and its closing bracket. -/
def readMembers {τ : Type} (fs : Fields τ) (first : Bool) (slots : fs.Slots) (cs : List Char) :
    Except ReadError (Read fs.Slots cs) :=
  match nextKey first cs with
  | .error e => .error e
  | .ok ⟨none, rest, h⟩ => .ok ⟨slots, rest, h⟩
  | .ok ⟨some name, rest, h⟩ =>
    match fs.fillText name slots rest with
    | .error e => .error e
    | .ok filled =>
      have hf : filled.rest.length < cs.length := Nat.lt_trans filled.shorter h
      match readMembers fs false filled.value filled.rest with
      | .error e => .error e
      | .ok r => .ok (r.widen (Nat.le_of_lt hf))
termination_by cs.length

/-- Read an array of fields and its closing bracket. -/
def readItems (expected : String) (before : Nat) :
    {τ : Type} → Fields τ → (first : Bool) → Reader τ
  | _, done, _ => closeList
  | _, field _ decoder default? others, first => fun cs =>
    match h : nextItem first cs with
    | .error e => .error e
    | .ok none =>
      match default? with
      | none => .error (.data (.invalidLength before expected))
      | some a => do return (← others.readItems expected (before + 1) first cs).map (a, ·)
    | .ok (some item) => do
      let a ← decoder.ofText item
      let r ← others.readItems expected (before + 1) false a.rest
      return (r.map (a.value, ·)).widen
        (Nat.le_of_lt (Nat.lt_of_lt_of_le a.shorter (length_nextItem h)))

end Fields

/-- A record under its name. -/
def Decoder.record {τ α : Type} (name : String) (fs : Fields τ) (build : τ → α) : Decoder α :=
  let expected := "struct " ++ name
  let sized := expected ++ " with " ++ toString fs.count ++ " elements"
  { ofValue := fun
      | .object members => do
        let slots ← fs.fillMembers fs.noSlots (lastMembers members)
        (fs.complete slots).map build
      | .array items => (fs.ofItems sized items.length 0 items).map build
      | v => .error (.invalidType (.ofValue v) expected)
    ofText := atFront .value fun c rest =>
      if c = '{' then do
        let slots ← fs.readMembers true fs.noSlots rest
        match fs.complete slots.value with
        | .ok r => return (slots.map fun _ => build r).behind c
        | .error e => throw (.data e)
      else if c = '[' then do return ((← fs.readItems sized 0 true rest).map build).behind c
      else .error (unexpected expected (c :: rest)) }

end Transit.Json
