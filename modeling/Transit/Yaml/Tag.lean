import Transit.Text.Digits
import Transit.Yaml.Cursor

/-!
# Tags of YAML nodes

A tag is a sequence of bytes. Escapes may write any bytes, also some that are no text, and a zero
byte ends the tag.

* `Tag.name?` is the name in a tag of the document's own, `Tag.core` a tag of the core schema.
* `readTagParts` reads a tag as a handle and the tag behind it.
-/

namespace Transit.Yaml

/-- A tag, or a part of one. -/
structure Tag where
  bytes : List UInt8
  deriving DecidableEq, Repr

namespace Tag

/-- The tag of bytes as they are written. -/
def ofBytes (bs : List UInt8) : Tag := ⟨bs.takeWhile (· != 0)⟩

/-- The tag of a text without zeros. -/
def ofString (s : String) : Tag := ⟨s.toUTF8.data.toList⟩

/-- One tag behind another. -/
def append (t u : Tag) : Tag := ⟨t.bytes ++ u.bytes⟩

instance : Append Tag := ⟨append⟩

/-- The tag of the core schema under a name. -/
def core (name : String) : Tag := ofString ("tag:yaml.org,2002:" ++ name)

/-- Whether a tag begins with an exclamation mark. -/
def isLocal (t : Tag) : Bool := t.bytes.head? == some 0x21

/-- The name behind the exclamation mark; the mark alone is a name itself. Bytes that are no text
are no name. -/
def name? (t : Tag) : Option String :=
  if t.isLocal then
    String.fromUTF8? (if t.bytes.length = 1 then t.bytes else t.bytes.drop 1).toByteArray
  else none

end Tag

/-! ### Escapes -/

/-- One escaped byte: a percent sign and two hexadecimal digits. -/
def escapedByte? (cs : List Char) : Option UInt8 :=
  match cs with
  | '%' :: a :: b :: _ => do
    return UInt8.ofNat (16 * (← Text.hexDigit? a) + (← Text.hexDigit? b))
  | _ => none

/-- The number of bytes of a character by its first byte. -/
def sequenceLength? (first : UInt8) : Option Nat :=
  if first < 0x80 then some 1
  else if 0xC0 ≤ first ∧ first < 0xE0 then some 2
  else if 0xE0 ≤ first ∧ first < 0xF0 then some 3
  else if 0xF0 ≤ first ∧ first < 0xF8 then some 4
  else none

/-- The bytes of one character, all of them escaped. That they write a character at all is not
asked for. -/
def escapedBytes? (cs : List Char) : Option (List UInt8) := do
  let first ← escapedByte? cs
  let others ← (List.range ((← sequenceLength? first) - 1)).mapM fun i => do
    let byte ← escapedByte? (cs.drop (3 * (i + 1)))
    if 0x80 ≤ byte ∧ byte < 0xC0 then some byte else none
  return first :: others

/-! ### Handles and tags -/

/-- The characters of a tag, apart from escapes. -/
def isTagChar (verbatim : Bool) (c : Char) : Bool :=
  isNameChar c || ";/?:@&=+$.!~*'()".toList.contains c
    || (verbatim && (c == ',' || c == '[' || c == ']'))

/-- Read the characters of a tag as bytes. -/
def readTagBytes (verbatim : Bool) : Nat → Cursor → Option (List UInt8 × Cursor)
  | 0, c => some ([], c)
  | fuel + 1, c =>
    match c.peek? with
    | none => some ([], c)
    | some x =>
      if x == '%' then do
        let front ← escapedBytes? c.rest
        let (bytes, c) ← readTagBytes verbatim fuel (c.skip (3 * front.length))
        return (front ++ bytes, c)
      else if isTagChar verbatim x then do
        let (bytes, c) ← readTagBytes verbatim fuel (c.skip 1)
        return (UInt8.ofNat x.toNat :: bytes, c)
      else some ([], c)

/-- Read a tag that must not be empty as it is written. -/
def readTagText (verbatim : Bool) (c : Cursor) : Option (Tag × Cursor) := do
  let (bytes, c) ← readTagBytes verbatim (c.rest.length + 1) c
  if bytes.isEmpty then none else return (.ofBytes bytes, c)

/-- Read a handle: an exclamation mark, a name, and perhaps another exclamation mark. -/
def readHandle (c : Cursor) : Option (String × Cursor) :=
  if !c.sees '!' then none
  else
    let name := (c.skip 1).rest.takeWhile isNameChar
    let handle := "!" ++ String.ofList name
    let c := c.skip (1 + name.length)
    if c.sees '!' then some (handle.push '!', c.skip 1) else some (handle, c)

/-- Read a tag behind its handle, or a tag that has none. What looks like a handle but is not closed
belongs to the tag. -/
def readTagParts (c : Cursor) : Option (String × Tag × Cursor) := do
  if c.rest[1]? == some '<' then
    let (tag, c) ← readTagText true (c.skip 2)
    if c.sees '>' then return ("", tag, c.skip 1) else none
  else
    let (handle, c) ← readHandle c
    if handle.length > 1 && handle.endsWith "!" then
      let (tag, c) ← readTagText false c
      return (handle, tag, c)
    else
      let (bytes, c) ← readTagBytes false (c.rest.length + 1) c
      let tag := Tag.ofString (handle.drop 1).toString ++ Tag.ofBytes bytes
      return if tag.bytes.isEmpty then ("", .ofString "!", c) else ("!", tag, c)

end Transit.Yaml
