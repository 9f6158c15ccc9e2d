/-!
# A place in a YAML text

`Cursor` is the text that remains and its place in the whole, by bytes, line and column.
-/

namespace Transit.Yaml

/-- Space and tab. -/
def isBlank (c : Char) : Bool := c == ' ' || c == '\t'

/-- The characters that end a line. -/
def isBreak (c : Char) : Bool :=
  c == '\n' || c == '\r' || c == '\x85' || c == '\u2028' || c == '\u2029'

/-- Whether a character, or the end of the text, ends a word. -/
def endsWord : Option Char → Bool
  | none => true
  | some c => isBlank c || isBreak c

/-- Whether a character, or the end of the text, ends a line. -/
def endsLine : Option Char → Bool
  | none => true
  | some c => isBreak c

/-- The characters of anchors and of the names of directives. -/
def isNameChar (c : Char) : Bool := c.isAlphanum || c == '_' || c == '-'

/-- The characters that a text may hold at all. -/
def isAllowed (c : Char) : Bool :=
  let n := c.toNat
  n == 0x9 || n == 0xA || n == 0xD || (0x20 ≤ n && n ≤ 0x7E) || n == 0x85
    || (0xA0 ≤ n && n ≤ 0xD7FF) || (0xE000 ≤ n && n ≤ 0xFFFD) || 0x10000 ≤ n

/-- The bytes that characters take. -/
def byteCount (cs : List Char) : Nat := cs.foldl (fun n c => n + c.utf8Size) 0

/-- The text that remains, and where it begins. -/
structure Cursor where
  rest : List Char
  /-- The bytes before. -/
  offset : Nat := 0
  line : Nat := 0
  column : Nat := 0

namespace Cursor

/-- The character in front. -/
def peek? (c : Cursor) : Option Char := c.rest.head?

/-- Whether the given character is in front. -/
def sees (c : Cursor) (x : Char) : Bool := c.peek? == some x

/-- Whether a blank is in front. -/
def seesBlank (c : Cursor) : Bool := c.peek?.any isBlank

/-- Whether a line break is in front. -/
def seesBreak (c : Cursor) : Bool := c.peek?.any isBreak

/-- Pass over `n` characters of one line. -/
def skip (c : Cursor) (n : Nat) : Cursor :=
  { c with
    rest := c.rest.drop n
    offset := c.offset + byteCount (c.rest.take n)
    column := c.column + n }

/-- Pass over characters of one line as long as they satisfy `p`. -/
def skipWhile (c : Cursor) (p : Char → Bool) : Cursor := c.skip (c.rest.takeWhile p).length

/-- Pass over a line break; carriage return and line feed are one. -/
def skipLine (c : Cursor) : Cursor :=
  match c.rest with
  | '\r' :: '\n' :: rest => ⟨rest, c.offset + 2, c.line + 1, 0⟩
  | x :: rest => if isBreak x then ⟨rest, c.offset + x.utf8Size, c.line + 1, 0⟩ else c
  | [] => c

/-- What the line break in front contributes to a text: a line feed, except that the two
separators of Unicode stand for themselves. -/
def breakText (c : Cursor) : String :=
  match c.rest with
  | x :: _ =>
    if x == '\u2028' || x == '\u2029' then x.toString else if isBreak x then "\n" else ""
  | [] => ""

/-- Whether a mark of three characters stands alone at the start of a line. -/
def seesMark (c : Cursor) (x : Char) : Bool :=
  c.column == 0 && c.rest.take 3 == [x, x, x] && endsWord c.rest[3]?

/-- Whether a mark between documents is in front. -/
def seesAnyMark (c : Cursor) : Bool := c.seesMark '-' || c.seesMark '.'

/-- Pass over blanks and a comment up to the end of the line. -/
def skipComment (c : Cursor) : Cursor :=
  let c := c.skipWhile isBlank
  if c.sees '#' then c.skipWhile fun x => !isBreak x else c

end Cursor

end Transit.Yaml
