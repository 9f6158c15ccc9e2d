import Transit.Json.Reading

/-!
# Passing over a value

`skip` checks the grammar of a value and keeps nothing of it. Numbers may have any size and strings
lone surrogates.

* The open brackets are kept in a list, so nesting may have any depth.
* `skipStep` passes over one scalar or one opening bracket, and `skipValue` repeats it until no
  bracket is open.
-/

namespace Transit.Json

/-- An open bracket. -/
inductive Bracket
  | list
  | object
  deriving DecidableEq

namespace Bracket

/-- The bracket that a character opens. -/
def ofOpening? (c : Char) : Option Bracket :=
  if c = '[' then some list else if c = '{' then some object else none

/-- The character that closes it. -/
def closing : Bracket → Char
  | list => ']'
  | object => '}'

/-- The refusal of a text that ends inside it. -/
def unfinished : Bracket → ReadError
  | list => .ended .list
  | object => .ended .object

/-- The refusal of what is no comma and does not close it. -/
def expectedEnd : Bracket → GrammarError
  | list => .expectedListCommaOrEnd
  | object => .expectedObjectCommaOrEnd

end Bracket

/-- Pass over a value without brackets of its own. -/
def skipScalar (c : Char) (rest : List Char) : Except ReadError (List Char) :=
  if c = 'n' then word ['u', 'l', 'l'] rest
  else if c = 't' then word ['r', 'u', 'e'] rest
  else if c = 'f' then word ['a', 'l', 's', 'e'] rest
  else if c = '-' ∨ c.isDigit then
    (Numeral.lex (.grammar .invalidNumber) (c :: rest)).map Prod.snd
  else if c = '"' then skipText rest
  else .error (.grammar .expectedValue)

theorem length_skipScalar {c : Char} {cs rest : List Char} (h : skipScalar c cs = .ok rest) :
    rest.length < (c :: cs).length := by
  unfold skipScalar at h
  split at h
  · exact Nat.lt_succ_of_le (length_word h)
  split at h
  · exact Nat.lt_succ_of_le (length_word h)
  split at h
  · exact Nat.lt_succ_of_le (length_word h)
  split at h
  · cases hl : Numeral.lex (.grammar .invalidNumber) (c :: cs) with
    | error e => rw [hl] at h; cases h
    | ok p =>
      rw [hl] at h
      cases h
      exact Numeral.length_lex hl
  split at h
  · exact Nat.lt_succ_of_lt (length_skipText h)
  · cases h

/-- Pass over a key. -/
def skipKey : Reader Unit := atFront .object fun c rest =>
  if c = '"' then
    match h : skipText rest with
    | .ok rest' => .ok ⟨(), rest', Nat.lt_succ_of_lt (length_skipText h)⟩
    | .error e => .error e
  else .error (.grammar .keyMustBeString)

/-- Pass over what has to stand before a value in a bracket. -/
def Bracket.skipLead : Bracket → List Char → Except ReadError (List Char)
  | list, cs => .ok cs
  | object, cs => do
    let key ← skipKey cs
    return (← colon key.rest).rest

theorem Bracket.length_skipLead {b : Bracket} {cs rest : List Char}
    (h : b.skipLead cs = .ok rest) : rest.length ≤ cs.length := by
  cases b with
  | list =>
    cases h
    exact Nat.le_refl _
  | object =>
    cases hk : skipKey cs with
    | error e => simp only [skipLead, hk, bind, Except.bind] at h; cases h
    | ok k =>
      cases hc : colon k.rest with
      | error e => simp only [skipLead, hk, hc, bind, Except.bind] at h; cases h
      | ok m =>
        simp only [skipLead, hk, hc, bind, Except.bind] at h
        cases h
        exact Nat.le_of_lt (Nat.lt_trans m.shorter k.shorter)

/-- The open brackets after one more is met, and where to go on: at its first value, or behind it
when it closes at once. -/
def openBracket (b : Bracket) (rest : List Char) : Except ReadError (Bool × List Char) :=
  match skipBlank rest with
  | [] => .error b.unfinished
  | c :: tail =>
    if c = b.closing then .ok (false, tail) else (b.skipLead (c :: tail)).map (true, ·)

theorem length_openBracket {b : Bracket} {cs rest : List Char} {again : Bool}
    (h : openBracket b cs = .ok (again, rest)) : rest.length ≤ cs.length := by
  have hb := length_skipBlank cs
  unfold openBracket at h
  split at h
  · cases h
  · rename_i c tail heq
    rw [heq] at hb
    split at h
    · cases h
      exact Nat.le_of_lt hb
    · cases hl : b.skipLead (c :: tail) with
      | error e => rw [hl] at h; cases h
      | ok r =>
        rw [hl] at h
        cases h
        exact Nat.le_trans (Bracket.length_skipLead hl) hb

/-- Where to go on behind a value inside a bracket: at the next value, or behind the bracket. -/
def nextInBracket (b : Bracket) (cs : List Char) : Except ReadError (Bool × List Char) :=
  match skipBlank cs with
  | [] => .error b.unfinished
  | c :: rest =>
    if c = ',' then (b.skipLead rest).map (true, ·)
    else if c = b.closing then .ok (false, rest)
    else .error (.grammar b.expectedEnd)

theorem length_nextInBracket {b : Bracket} {cs rest : List Char} {again : Bool}
    (h : nextInBracket b cs = .ok (again, rest)) : rest.length < cs.length := by
  have hb := length_skipBlank cs
  unfold nextInBracket at h
  split at h
  · cases h
  · rename_i c tail heq
    rw [heq] at hb
    split at h
    · cases hl : b.skipLead tail with
      | error e => rw [hl] at h; cases h
      | ok r =>
        rw [hl] at h
        cases h
        exact Nat.lt_of_le_of_lt (Bracket.length_skipLead hl) hb
    · split at h
      · cases h
        exact hb
      · cases h

/-- The brackets that are still open behind a value, and the text at the next value inside them. No
bracket is open behind the outermost one. -/
def climb : List Bracket → List Char → Except ReadError (List Bracket × List Char)
  | [], cs => .ok ([], cs)
  | b :: outer, cs =>
    match nextInBracket b cs with
    | .error e => .error e
    | .ok (true, rest) => .ok (b :: outer, rest)
    | .ok (false, rest) => climb outer rest

theorem length_climb {opened opened' : List Bracket} {cs rest : List Char}
    (h : climb opened cs = .ok (opened', rest)) : rest.length ≤ cs.length := by
  induction opened generalizing cs with
  | nil =>
    cases h
    exact Nat.le_refl _
  | cons b outer ih =>
    rw [climb] at h
    split at h
    · cases h
    · rename_i hn
      cases h
      exact Nat.le_of_lt (length_nextInBracket hn)
    · rename_i hn
      exact Nat.le_trans (ih h) (Nat.le_of_lt (length_nextInBracket hn))

/-- Pass over the scalar or the opening bracket in front, and climb out of what ends there. -/
def skipStep (opened : List Bracket) (cs : List Char) :
    Except ReadError (List Bracket × List Char) :=
  match skipBlank cs with
  | [] => .error (.ended .value)
  | c :: rest =>
    match Bracket.ofOpening? c with
    | some b =>
      match openBracket b rest with
      | .error e => .error e
      | .ok (true, rest) => .ok (b :: opened, rest)
      | .ok (false, rest) => climb opened rest
    | none =>
      match skipScalar c rest with
      | .error e => .error e
      | .ok rest => climb opened rest

theorem length_skipStep {opened opened' : List Bracket} {cs rest : List Char}
    (h : skipStep opened cs = .ok (opened', rest)) : rest.length < cs.length := by
  have hb := length_skipBlank cs
  unfold skipStep at h
  split at h
  · cases h
  · rename_i c tail heq
    rw [heq] at hb
    split at h
    · split at h
      · cases h
      · rename_i ho
        cases h
        exact Nat.lt_of_le_of_lt (length_openBracket ho) hb
      · rename_i ho
        exact Nat.lt_of_le_of_lt (Nat.le_trans (length_climb h) (length_openBracket ho)) hb
    · split at h
      · cases h
      · rename_i hs
        exact Nat.lt_of_lt_of_le (Nat.lt_of_le_of_lt (length_climb h) (length_skipScalar hs)) hb

/-- Pass over a value and over the rest of the open brackets. -/
def skipValue (opened : List Bracket) (cs : List Char) : Except ReadError (List Char) :=
  match h : skipStep opened cs with
  | .error e => .error e
  | .ok ([], rest) => .ok rest
  | .ok (b :: outer, rest) =>
    have : rest.length < cs.length := length_skipStep h
    skipValue (b :: outer) rest
termination_by cs.length

theorem length_skipValue {opened : List Bracket} {cs rest : List Char}
    (h : skipValue opened cs = .ok rest) : rest.length < cs.length := by
  fun_induction skipValue opened cs with
  | case1 => cases h
  | case2 _ _ _ hs =>
    cases h
    exact length_skipStep hs
  | case3 _ _ _ _ _ _ hlt ih => exact Nat.lt_trans (ih h) hlt

/-- Pass over a value. -/
def skip : Reader Unit := fun cs =>
  match h : skipValue [] cs with
  | .ok rest => .ok ⟨(), rest, length_skipValue h⟩
  | .error e => .error e

end Transit.Json
