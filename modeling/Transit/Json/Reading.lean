import Transit.Json.Numeral
import Transit.Json.Text

/-!
# Reading JSON text

A reader takes a value from the front of a text. What it leaves is shorter than what it was given,
so loops over readers end.

* `Read` is what a reader gives back, `Reader` the type of readers.
* `nextItem`, `closeList`, `nextKey` and `colon` read the marks of lists and objects.
* `unexpected` is the refusal of a value of the wrong kind, which is read as far as it has to be
  named.
-/

namespace Transit.Json

/-- White space between the parts of a text. -/
def isBlank (c : Char) : Bool := c == ' ' || c == '\t' || c == '\n' || c == '\r'

/-- The text after its leading white space. -/
def skipBlank (cs : List Char) : List Char := cs.dropWhile isBlank

theorem length_skipBlank (cs : List Char) : (skipBlank cs).length ≤ cs.length :=
  (List.dropWhile_sublist _).length_le

/-- What was read, and the text after it. -/
structure Read (α : Type) (cs : List Char) where
  value : α
  rest : List Char
  shorter : rest.length < cs.length

namespace Read

variable {α β : Type} {cs cs' : List Char}

/-- The same reading, from a text that is no shorter. -/
def widen (r : Read α cs') (h : cs'.length ≤ cs.length) : Read α cs :=
  ⟨r.value, r.rest, Nat.lt_of_lt_of_le r.shorter h⟩

/-- The same reading, from a text with one more character in front. -/
def behind (c : Char) (r : Read α cs) : Read α (c :: cs) := r.widen (Nat.le_succ _)

/-- The reading of the character in front alone. -/
def front (a : α) (c : Char) (rest : List Char) : Read α (c :: rest) :=
  ⟨a, rest, Nat.lt_succ_self _⟩

/-- The reading with its value changed. -/
def map (f : α → β) (r : Read α cs) : Read β cs := ⟨f r.value, r.rest, r.shorter⟩

end Read

/-- A way to take a value from the front of a text. -/
abbrev Reader (α : Type) := (cs : List Char) → Except ReadError (Read α cs)

/-- A reader that starts at the first character that is not blank. A text that has none ends
inside `unfinished`. -/
def atFront {α : Type} (unfinished : Unfinished)
    (r : (c : Char) → (rest : List Char) → Except ReadError (Read α (c :: rest))) : Reader α :=
  fun cs =>
    match h : skipBlank cs with
    | [] => .error (.ended unfinished)
    | c :: rest => do return (← r c rest).widen (h ▸ length_skipBlank cs)

/-! ### Words, strings and numbers -/

/-- The text behind the given characters. -/
def word : List Char → List Char → Except ReadError (List Char)
  | [], cs => .ok cs
  | _ :: _, [] => .error (.ended .value)
  | w :: ws, c :: cs => if c = w then word ws cs else .error (.grammar .expectedIdent)

theorem length_word {ws cs rest : List Char} (h : word ws cs = .ok rest) :
    rest.length ≤ cs.length := by
  induction ws generalizing cs with
  | nil =>
    cases h
    exact Nat.le_refl _
  | cons w ws ih =>
    cases cs with
    | nil => cases h
    | cons c cs =>
      rw [word] at h
      split at h
      · exact Nat.le_succ_of_le (ih h)
      · cases h

/-- Read a word that starts with `c`, and give back a value for it. -/
def readWord {α : Type} (a : α) (letters : List Char) (c : Char) (rest : List Char) :
    Except ReadError (Read α (c :: rest)) :=
  match h : word letters rest with
  | .ok r => .ok ⟨a, r, Nat.lt_succ_of_le (length_word h)⟩
  | .error e => .error e

/-- Read the characters of a string behind its opening quote. -/
def text : Reader String := fun cs =>
  match h : readText cs with
  | .ok (s, rest) => .ok ⟨String.ofList s, rest, length_readText h⟩
  | .error e => .error e

/-- Read a number. -/
def number : Reader Number := fun cs =>
  match h : Numeral.lex (.ended .value) cs with
  | .ok (n, rest) => do return ⟨← n.number, rest, Numeral.length_lex h⟩
  | .error e => .error e

/-- What stands in front of a text that is not blank, to be named in a refusal. -/
def found : List Char → Except ReadError Found
  | [] => .error (.ended .value)
  | c :: rest =>
    if c = 'n' then do
      discard (word ['u', 'l', 'l'] rest)
      return .null
    else if c = 't' then do
      discard (word ['r', 'u', 'e'] rest)
      return .bool true
    else if c = 'f' then do
      discard (word ['a', 'l', 's', 'e'] rest)
      return .bool false
    else if c = '-' ∨ c.isDigit then do return .number (← number (c :: rest)).value
    else if c = '"' then do return .string (← text rest).value
    else if c = '[' then return .sequence
    else if c = '{' then return .map
    else .error (.grammar .expectedValue)

/-- The refusal of what stands in front of a text, where something else was expected. -/
def unexpected (expected : String) (cs : List Char) : ReadError :=
  match found cs with
  | .ok x => .data (.invalidType x expected)
  | .error e => e

/-! ### Marks -/

/-- The text of the next item of a list, or none where the list closes. The `first` item has no
comma before it. -/
def nextItem (first : Bool) (cs : List Char) : Except ReadError (Option (List Char)) :=
  match skipBlank cs with
  | [] => .error (.ended .list)
  | c :: rest =>
    if c = ']' then .ok none
    else if first then .ok (some (c :: rest))
    else if c = ',' then
      match skipBlank rest with
      | [] => .error (.ended .value)
      | c :: rest => if c = ']' then .error (.grammar .trailingComma) else .ok (some (c :: rest))
    else .error (.grammar .expectedListCommaOrEnd)

theorem length_nextItem {first : Bool} {cs rest : List Char}
    (h : nextItem first cs = .ok (some rest)) : rest.length ≤ cs.length := by
  have hb := length_skipBlank cs
  unfold nextItem at h
  split at h
  · cases h
  · rename_i c tail heq
    rw [heq] at hb
    split at h
    · cases h
    · split at h
      · cases h
        exact hb
      · split at h
        · have ht := length_skipBlank tail
          split at h
          · cases h
          · rename_i c' tail' heq'
            rw [heq'] at ht
            split at h
            · cases h
            · cases h
              simp only [List.length_cons] at hb ht ⊢
              omega
        · cases h

/-- Read the end of a list after its last item. -/
def closeList : Reader Unit := atFront .list fun c rest =>
  if c = ']' then .ok (.front () c rest)
  else if c = ',' ∧ (skipBlank rest).head? = some ']' then .error (.grammar .trailingComma)
  else .error (.grammar .trailingCharacters)

/-- Read a key. -/
def key (c : Char) (rest : List Char) : Except ReadError (Read String (c :: rest)) :=
  if c = '"' then do return (← text rest).behind c else .error (.grammar .keyMustBeString)

/-- Read the key behind a comma. -/
def keyAfterComma : Reader String := atFront .value fun c rest =>
  if c = '}' then .error (.grammar .trailingComma) else key c rest

/-- Read the next key of an object, or its end. The `first` key has no comma before it. -/
def nextKey (first : Bool) : Reader (Option String) := atFront .object fun c rest =>
  if c = '}' then .ok (.front none c rest)
  else if first then do return (← key c rest).map some
  else if c = ',' then do return ((← keyAfterComma rest).map some).behind c
  else .error (.grammar .expectedObjectCommaOrEnd)

/-- Read the colon behind a key. -/
def colon : Reader Unit := atFront .object fun c rest =>
  if c = ':' then .ok (.front () c rest) else .error (.grammar .expectedColon)

/-- Read a colon and then a value. -/
def afterColon {α : Type} (r : Reader α) : Reader α := fun cs => do
  let mark ← colon cs
  return (← r mark.rest).widen (Nat.le_of_lt mark.shorter)

/-- Read a whole text: a value, with nothing but white space after it. -/
def readAll {α : Type} (r : Reader α) (cs : List Char) : Except ReadError α := do
  let a ← r cs
  if (skipBlank a.rest).isEmpty then return a.value
  else throw (.grammar .trailingCharacters)

end Transit.Json
