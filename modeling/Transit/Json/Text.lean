import Transit.Json.Error
import Transit.Text.Digits

/-!
# Strings in JSON text

* `readText` reads the characters of a string up to its closing quote and joins surrogate escapes.
* `skipText` passes over a string and checks its grammar only, so that it takes lone surrogates.

Both start behind the opening quote and return what follows the closing one.
-/

namespace Transit.Json

/-! ### Escapes -/

/-- The value of four hexadecimal digits. -/
def hexUnit? (a b c d : Char) : Option Nat :=
  match Text.hexDigit? a, Text.hexDigit? b, Text.hexDigit? c, Text.hexDigit? d with
  | some a, some b, some c, some d => some (((a * 16 + b) * 16 + c) * 16 + d)
  | _, _, _, _ => none

/-- Read four hexadecimal digits. Four bytes that are not digits are an invalid escape; with fewer
the text has ended. -/
def readUnit (cs : List Char) : Except ReadError (Nat × List Char) :=
  match cs with
  | a :: b :: c :: d :: rest =>
    match hexUnit? a b c d with
    | some n => .ok (n, rest)
    | none => .error (.grammar .invalidEscape)
  | _ =>
    if 4 ≤ (String.ofList cs).utf8ByteSize then .error (.grammar .invalidEscape)
    else .error (.ended .string)

/-- The character of an escape of one letter. -/
def shortEscape? (c : Char) : Option Char :=
  match c with
  | '"' => some '"'
  | '\\' => some '\\'
  | '/' => some '/'
  | 'b' => some '\x08'
  | 'f' => some '\x0c'
  | 'n' => some '\n'
  | 'r' => some '\r'
  | 't' => some '\t'
  | _ => none

/-- Whether a unit of 16 bits is the first half of a pair. -/
def isHighSurrogate (n : Nat) : Bool := 0xD800 ≤ n && n ≤ 0xDBFF

/-- Whether a unit of 16 bits is the second half of a pair. -/
def isLowSurrogate (n : Nat) : Bool := 0xDC00 ≤ n && n ≤ 0xDFFF

/-- The character that a pair of units writes. -/
def joinSurrogates (high low : Nat) : Char :=
  Char.ofNat (0x10000 + (high - 0xD800) * 0x400 + (low - 0xDC00))

/-- Read the escape of the second half of a pair. -/
def readLow (high : Nat) (cs : List Char) : Except ReadError (Char × List Char) :=
  match cs with
  | [] => .error (.ended .string)
  | [c] => if c = '\\' then .error (.ended .string) else .error (.grammar .unfinishedSurrogate)
  | c :: u :: rest =>
    if c = '\\' ∧ u = 'u' then
      match readUnit rest with
      | .error e => .error e
      | .ok (low, rest) =>
        if isLowSurrogate low then .ok (joinSurrogates high low, rest)
        else .error (.grammar .loneSurrogate)
    else .error (.grammar .unfinishedSurrogate)

/-- Read an escape behind its backslash. -/
def readEscape (cs : List Char) : Except ReadError (Char × List Char) :=
  match cs with
  | [] => .error (.ended .string)
  | c :: rest =>
    if c = 'u' then
      match readUnit rest with
      | .error e => .error e
      | .ok (n, rest) =>
        if isLowSurrogate n then .error (.grammar .loneSurrogate)
        else if isHighSurrogate n then readLow n rest
        else .ok (Char.ofNat n, rest)
    else match shortEscape? c with
      | some x => .ok (x, rest)
      | none => .error (.grammar .invalidEscape)

/-- Pass over an escape behind its backslash. -/
def skipEscape (cs : List Char) : Except ReadError (List Char) :=
  match cs with
  | [] => .error (.ended .string)
  | c :: rest =>
    if c = 'u' then (readUnit rest).map Prod.snd
    else match shortEscape? c with
      | some _ => .ok rest
      | none => .error (.grammar .invalidEscape)

theorem length_readUnit {cs rest : List Char} {n : Nat} (h : readUnit cs = .ok (n, rest)) :
    rest.length < cs.length := by
  unfold readUnit at h
  split at h
  · split at h
    · cases h
      simp only [List.length_cons]
      omega
    · cases h
  · split at h <;> cases h

theorem length_readLow {high : Nat} {cs rest : List Char} {c : Char}
    (h : readLow high cs = .ok (c, rest)) : rest.length < cs.length := by
  unfold readLow at h
  split at h
  · cases h
  · split at h <;> cases h
  · split at h
    · split at h
      · cases h
      · rename_i hu
        split at h
        · injection h with h
          injection h with _ h
          subst h
          exact Nat.lt_succ_of_lt (Nat.lt_succ_of_lt (length_readUnit hu))
        · cases h
    · cases h

theorem length_readEscape {cs rest : List Char} {c : Char} (h : readEscape cs = .ok (c, rest)) :
    rest.length < cs.length := by
  unfold readEscape at h
  split at h
  · cases h
  · split at h
    · split at h
      · cases h
      · rename_i hu
        have hr := Nat.lt_succ_of_lt (length_readUnit hu)
        split at h
        · cases h
        · split at h
          · exact Nat.lt_trans (length_readLow h) hr
          · cases h
            exact hr
    · split at h
      · cases h
        exact Nat.lt_succ_self _
      · cases h

theorem length_skipEscape {cs rest : List Char} (h : skipEscape cs = .ok rest) :
    rest.length < cs.length := by
  unfold skipEscape at h
  split at h
  · cases h
  · rename_i c tail
    split at h
    · cases hu : readUnit tail with
      | error e => rw [hu] at h; cases h
      | ok p =>
        rw [hu] at h
        cases h
        exact Nat.lt_succ_of_lt (length_readUnit hu)
    · split at h
      · cases h
        exact Nat.lt_succ_self _
      · cases h

/-! ### Strings -/

/-- The characters up to the closing quote, and the text behind it. -/
def readText (cs : List Char) : Except ReadError (List Char × List Char) :=
  match cs with
  | [] => .error (.ended .string)
  | c :: rest =>
    if c = '"' then .ok ([], rest)
    else if c = '\\' then
      match h : readEscape rest with
      | .error e => .error e
      | .ok (x, rest') =>
        have : rest'.length < rest.length := length_readEscape h
        (readText rest').map fun p => (x :: p.1, p.2)
    else if c.toNat < 0x20 then .error (.grammar .controlCharacter)
    else (readText rest).map fun p => (c :: p.1, p.2)
termination_by cs.length

/-- The text behind the closing quote. -/
def skipText (cs : List Char) : Except ReadError (List Char) :=
  match cs with
  | [] => .error (.ended .string)
  | c :: rest =>
    if c = '"' then .ok rest
    else if c = '\\' then
      match h : skipEscape rest with
      | .error e => .error e
      | .ok rest' =>
        have : rest'.length < rest.length := length_skipEscape h
        skipText rest'
    else if c.toNat < 0x20 then .error (.grammar .controlCharacter)
    else skipText rest
termination_by cs.length

theorem length_readText {cs s rest : List Char} (h : readText cs = .ok (s, rest)) :
    rest.length < cs.length := by
  fun_induction readText cs generalizing s with
  | case1 => cases h
  | case2 =>
    cases h
    exact Nat.lt_succ_self _
  | case3 => cases h
  | case4 tail x tail' _ hlt _ ih =>
    cases hr : readText tail' with
    | error e => rw [hr] at h; cases h
    | ok p =>
      rw [hr] at h
      cases h
      exact Nat.lt_trans (ih hr) (Nat.lt_succ_of_lt hlt)
  | case5 => cases h
  | case6 c tail _ _ _ ih =>
    cases hr : readText tail with
    | error e => rw [hr] at h; cases h
    | ok p =>
      rw [hr] at h
      cases h
      exact Nat.lt_succ_of_lt (ih hr)

theorem length_skipText {cs rest : List Char} (h : skipText cs = .ok rest) :
    rest.length < cs.length := by
  fun_induction skipText cs with
  | case1 => cases h
  | case2 =>
    cases h
    exact Nat.lt_succ_self _
  | case3 => cases h
  | case4 tail tail' _ hlt _ ih => exact Nat.lt_trans (ih h) (Nat.lt_succ_of_lt hlt)
  | case5 => cases h
  | case6 c tail _ _ _ ih => exact Nat.lt_succ_of_lt (ih h)

end Transit.Json
