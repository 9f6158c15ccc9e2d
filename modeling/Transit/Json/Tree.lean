import Transit.Json.Reading

/-!
# Reading JSON values

`value` reads one value of any kind into a tree, and `Value.ofText` a whole text. Lists and objects
may nest to any depth.
-/

namespace Transit.Json

mutual

/-- Read a value. -/
def value (cs : List Char) : Except ReadError (Read Value cs) :=
  match hc : skipBlank cs with
  | [] => .error (.ended .value)
  | c :: rest =>
    have hb : (c :: rest).length ≤ cs.length := hc ▸ length_skipBlank cs
    if c = '"' then do return (((← text rest).map Value.string).behind c).widen hb
    else if c = '[' then do return (((← values true rest).map Value.array).behind c).widen hb
    else if c = '{' then do return (((← members true rest).map Value.object).behind c).widen hb
    else if c = '-' ∨ c.isDigit then do return ((← number (c :: rest)).map Value.number).widen hb
    else if c = 'n' then do return (← readWord .null ['u', 'l', 'l'] c rest).widen hb
    else if c = 't' then do return (← readWord (.bool true) ['r', 'u', 'e'] c rest).widen hb
    else if c = 'f' then do
      return (← readWord (.bool false) ['a', 'l', 's', 'e'] c rest).widen hb
    else .error (.grammar .expectedValue)
termination_by (cs.length, 0)
decreasing_by all_goals exact Prod.Lex.left _ _ hb

/-- Read the items of a list and its closing bracket. -/
def values (first : Bool) (cs : List Char) : Except ReadError (Read (List Value) cs) :=
  match h : nextItem first cs with
  | .error e => .error e
  | .ok none => do return (← closeList cs).map fun _ => []
  | .ok (some item) =>
    have hi : item.length ≤ cs.length := length_nextItem h
    match value item with
    | .error e => .error e
    | .ok v =>
      have hv : v.rest.length < cs.length := Nat.lt_of_lt_of_le v.shorter hi
      match values false v.rest with
      | .error e => .error e
      | .ok vs => .ok ((vs.map (v.value :: ·)).widen (Nat.le_of_lt hv))
termination_by (cs.length, 1)
decreasing_by
  · rcases Nat.lt_or_eq_of_le hi with hi | hi
    · exact Prod.Lex.left _ _ hi
    · rw [hi]
      exact Prod.Lex.right _ Nat.zero_lt_one
  · exact Prod.Lex.left _ _ hv

/-- Read the members of an object and its closing bracket. -/
def members (first : Bool) (cs : List Char) :
    Except ReadError (Read (List (String × Value)) cs) :=
  match nextKey first cs with
  | .error e => .error e
  | .ok ⟨none, rest, h⟩ => .ok ⟨[], rest, h⟩
  | .ok ⟨some k, rest, h⟩ =>
    match colon rest with
    | .error e => .error e
    | .ok mark =>
      have hr : mark.rest.length < cs.length := Nat.lt_trans mark.shorter h
      match value mark.rest with
      | .error e => .error e
      | .ok v =>
        have hv : v.rest.length < cs.length := Nat.lt_trans v.shorter hr
        match members false v.rest with
        | .error e => .error e
        | .ok ms => .ok ((ms.map ((k, v.value) :: ·)).widen (Nat.le_of_lt hv))
termination_by (cs.length, 1)
decreasing_by
  · exact Prod.Lex.left _ _ hr
  · exact Prod.Lex.left _ _ hv

end

/-- The value that a whole text writes. Depth is no reason to refuse a text. A reader with a
recursion limit refuses it from the 128th open bracket on, so it takes fewer texts than this one,
and gives them the same values. -/
def Value.ofText (s : String) : Except ReadError Value := readAll value s.toList

end Transit.Json
