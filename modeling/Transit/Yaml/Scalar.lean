import Transit.Text.Digits
import Transit.Yaml.Cursor

/-!
# Scalars in YAML text

Plain, quoted and block scalars, read from where they begin. A line break inside a plain or quoted
scalar folds to a space, and further ones stay (`Gap.text`).

Every reader gives none when the text breaks the rules. Loops are bounded by the length of the text
that remains, since every round passes over a character.
-/

namespace Transit.Yaml

/-- How a scalar is written. -/
inductive Style
  | plain
  | singleQuoted
  | doubleQuoted
  | literal
  | folded
  deriving DecidableEq, Repr

/-! ### Gaps between words -/

/-- Blanks and line breaks between two words of a scalar. -/
structure Gap where
  /-- Whether the line has been broken. -/
  broken : Bool := false
  /-- The blanks before the first break. -/
  blanks : String := ""
  /-- The first break. -/
  leading : String := ""
  /-- The other breaks. -/
  trailing : String := ""

/-- What a gap contributes to a scalar. -/
def Gap.text (g : Gap) : String :=
  if !g.broken then g.blanks
  else if g.leading == "\n" then (if g.trailing.isEmpty then " " else g.trailing)
  else g.leading ++ g.trailing

/-- Read blanks and breaks. On a new line a tab must not stand before the column `indent`. -/
def readGap (indent : Int) : Nat → Gap → Cursor → Option (Gap × Cursor)
  | 0, g, c => some (g, c)
  | fuel + 1, g, c =>
    match c.peek? with
    | none => some (g, c)
    | some x =>
      if isBlank x then
        if g.broken && c.column < indent && x == '\t' then none
        else
          readGap indent fuel (if g.broken then g else { g with blanks := g.blanks.push x })
            (c.skip 1)
      else if isBreak x then
        let g := if g.broken then { g with trailing := g.trailing ++ c.breakText }
          else { g with broken := true, leading := c.breakText }
        readGap indent fuel g c.skipLine
      else some (g, c)

/-! ### Plain scalars -/

/-- The characters that end a plain scalar inside a flow collection. -/
def isFlowEnd (c : Char) : Bool := c == ',' || c == '[' || c == ']' || c == '{' || c == '}'

/-- The characters of a plain scalar up to a blank or to what ends the scalar. Inside a flow
collection a colon must not stand before an indicator. -/
def plainWord (flow : Bool) : List Char → Option (List Char)
  | [] => some []
  | x :: rest =>
    if isBlank x || isBreak x then some []
    else if flow && x == ':' && rest.head?.any (fun y => isFlowEnd y || y == '?') then none
    else if (x == ':' && endsWord rest.head?) || (flow && isFlowEnd x) then some []
    else (plainWord flow rest).map (x :: ·)

/-- Read the words of a plain scalar after the text `out` and a gap. The last gap tells whether the
scalar ended on a later line. -/
def plainLoop (flow : Bool) (indent : Int) :
    Nat → String → Gap → Cursor → Option (String × Gap × Cursor)
  | 0, _, _, _ => none
  | fuel + 1, out, gap, c =>
    if c.seesAnyMark || c.sees '#' then some (out, gap, c)
    else do
      let word ← plainWord flow c.rest
      if word.isEmpty then return (out, gap, c)
      let out := out ++ gap.text ++ String.ofList word
      let c := c.skip word.length
      if !(c.seesBlank || c.seesBreak) then return (out, {}, c)
      let (gap, c) ← readGap indent (c.rest.length + 1) {} c
      if !flow && c.column < indent then return (out, gap, c)
      plainLoop flow indent fuel out gap c

/-- Read a plain scalar: its text, and whether it ended on a later line. -/
def readPlain (flow : Bool) (indent : Int) (c : Cursor) : Option (String × Bool × Cursor) := do
  let (out, gap, c) ← plainLoop flow indent (c.rest.length + 1) "" {} c
  return (out, gap.broken, c)

/-! ### Quoted scalars -/

/-- The character with the code point that `n` hexadecimal digits write. -/
def hexChar? (n : Nat) (cs : List Char) : Option Char := do
  let digits ← (cs.take n).mapM Text.hexDigit?
  let value := digits.foldl (fun v d => 16 * v + d) 0
  if digits.length = n ∧ value.isValidChar then some (Char.ofNat value) else none

/-- The character of an escape of one letter. -/
def escaped? (c : Char) : Option Char :=
  match c with
  | '0' => some '\x00'
  | 'a' => some '\x07'
  | 'b' => some '\x08'
  | 't' | '\t' => some '\t'
  | 'n' => some '\n'
  | 'v' => some '\x0b'
  | 'f' => some '\x0c'
  | 'r' => some '\r'
  | 'e' => some '\x1b'
  | ' ' | '"' | '/' | '\\' => some c
  | 'N' => some '\x85'
  | '_' => some '\xa0'
  | 'L' => some '\u2028'
  | 'P' => some '\u2029'
  | _ => none

/-- The number of digits of an escape by code point. -/
def escapeDigits? (c : Char) : Option Nat :=
  match c with
  | 'x' => some 2
  | 'u' => some 4
  | 'U' => some 8
  | _ => none

/-- Read an escape behind its backslash. -/
def readEscape (c : Cursor) : Option (Char × Cursor) := do
  let x ← c.peek?
  match escapeDigits? x with
  | some n => return (← hexChar? n (c.rest.drop 1), c.skip (n + 1))
  | none => return (← escaped? x, c.skip 1)

/-- Read the characters of a quoted scalar up to a blank, a break or the closing quote. An escaped
line break ends them too, which the result tells. -/
def quotedWord (single : Bool) : Nat → String → Cursor → Option (String × Bool × Cursor)
  | 0, _, _ => none
  | fuel + 1, out, c =>
    match c.rest with
    | [] => some (out, false, c)
    | x :: rest =>
      if isBlank x || isBreak x then some (out, false, c)
      else if single then
        if x == '\'' then
          if rest.head? == some '\'' then quotedWord single fuel (out.push '\'') (c.skip 2)
          else some (out, false, c)
        else quotedWord single fuel (out.push x) (c.skip 1)
      else if x == '"' then some (out, false, c)
      else if x == '\\' then
        if rest.head?.any isBreak then some (out, true, (c.skip 1).skipLine)
        else do
          let (y, c) ← readEscape (c.skip 1)
          quotedWord single fuel (out.push y) c
      else quotedWord single fuel (out.push x) (c.skip 1)

/-- Read a quoted scalar behind its opening quote. -/
def quotedLoop (single : Bool) : Nat → String → Cursor → Option (String × Cursor)
  | 0, _, _ => none
  | fuel + 1, out, c =>
    if c.seesAnyMark || c.rest.isEmpty then none
    else do
      let (out, escapedBreak, c) ← quotedWord single (c.rest.length + 1) out c
      if c.sees (if single then '\'' else '"') then return (out, c.skip 1)
      let (gap, c) ← readGap (-1) (c.rest.length + 1) { broken := escapedBreak } c
      quotedLoop single fuel (out ++ gap.text) c

/-- Read a quoted scalar. -/
def readQuoted (single : Bool) (c : Cursor) : Option (String × Cursor) :=
  quotedLoop single (c.rest.length + 1) "" (c.skip 1)

/-! ### Block scalars -/

/-- What becomes of the line breaks at the end of a block scalar. -/
inductive Chomping
  | strip
  | clip
  | keep
  deriving DecidableEq, Repr

/-- Read a chomping indicator. -/
def readChomping (c : Cursor) : Option Chomping × Cursor :=
  if c.sees '+' then (some .keep, c.skip 1)
  else if c.sees '-' then (some .strip, c.skip 1)
  else (none, c)

/-- Read an indentation indicator, which must not be zero. -/
def readIncrement (c : Cursor) : Option (Option Nat × Cursor) :=
  match c.peek? with
  | some x =>
    if x == '0' then none
    else if x.isDigit then some (some (Text.digitValue x), c.skip 1)
    else some (none, c)
  | none => some (none, c)

/-- Read the two indicators of a block scalar, in either order. -/
def readHeader (c : Cursor) : Option (Chomping × Option Nat × Cursor) := do
  match readChomping c with
  | (some chomping, c) =>
    let (increment, c) ← readIncrement c
    return (chomping, increment, c)
  | (none, c) =>
    let (increment, c) ← readIncrement c
    if increment.isNone then return (.clip, none, c)
    let (chomping, c) := readChomping c
    return (chomping.getD .clip, increment, c)

/-- Read the breaks and the indentation before the next line of a block scalar. As long as the
indentation is not known, the deepest column reached is kept. -/
def blockBreaks (indent : Option Nat) :
    Nat → String → Nat → Cursor → Option (String × Nat × Cursor)
  | 0, _, _, _ => none
  | fuel + 1, breaks, deepest, c =>
    let spaces := (c.rest.takeWhile (· == ' ')).length
    let c := c.skip (match indent with
      | none => spaces
      | some n => min spaces (n - c.column))
    let deepest := max deepest c.column
    if c.sees '\t' && indent.all (c.column < ·) then none
    else if c.seesBreak then
      blockBreaks indent fuel (breaks ++ c.breakText) deepest c.skipLine
    else some (breaks, deepest, c)

/-- Read the lines of a block scalar. `leading` is the break after the last line, `trailing` the
breaks of the empty lines after it. -/
def blockLines (literal : Bool) (indent : Nat) :
    Nat → (out leading trailing : String) → (afterBlank : Bool) → Cursor →
      Option (String × String × String × Cursor)
  | 0, _, _, _, _, _ => none
  | fuel + 1, out, leading, trailing, afterBlank, c =>
    if c.column != indent || c.rest.isEmpty then some (out, leading, trailing, c)
    else do
      let blank := c.seesBlank
      let join :=
        if !literal && leading == "\n" && !afterBlank && !blank then
          if trailing.isEmpty then " " else ""
        else leading
      let line := c.rest.takeWhile fun x => !isBreak x
      let out := out ++ join ++ trailing ++ String.ofList line
      let c := c.skip line.length
      let leading := c.breakText
      let (trailing, _, c) ←
        blockBreaks (some indent) (c.rest.length + 1) "" 0 c.skipLine
      blockLines literal indent fuel out leading trailing blank c

/-- Read a block scalar inside the indentation `outer`. -/
def readBlock (literal : Bool) (outer : Int) (c : Cursor) : Option (String × Cursor) := do
  let (chomping, increment, c) ← readHeader (c.skip 1)
  let c := c.skipComment
  if !endsLine c.peek? then none
  let c := c.skipLine
  let indent := increment.map fun n => outer.toNat + n
  let (trailing, deepest, c) ← blockBreaks indent (c.rest.length + 1) "" 0 c
  let indent := indent.getD (max deepest (max (outer + 1).toNat 1))
  let (out, leading, trailing, c) ←
    blockLines literal indent (c.rest.length + 1) "" "" trailing false c
  let tail := match chomping with
    | .strip => ""
    | .clip => leading
    | .keep => leading ++ trailing
  return (out ++ tail, c)

end Transit.Yaml
