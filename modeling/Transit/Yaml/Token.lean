import Transit.Yaml.Scalar
import Transit.Yaml.Tag

/-!
# Tokens of a YAML text

The marks of a text: scalars, indicators, and the starts and ends of block collections, which only
the indentation shows.
-/

namespace Transit.Yaml

/-- A token. -/
inductive Token
  | versionDirective (major minor : Nat)
  | tagDirective (handle : String) (lead : Tag)
  | documentStart
  | documentEnd
  | streamEnd
  | blockSequenceStart
  | blockMappingStart
  | blockEnd
  | flowSequenceStart
  | flowSequenceEnd
  | flowMappingStart
  | flowMappingEnd
  | blockEntry
  | flowEntry
  | key
  | value
  | reference (anchor : String)
  | anchor (name : String)
  | tag (handle : String) (suffix : Tag)
  | scalar (text : String) (style : Style)
  deriving DecidableEq, Repr

/-! ### Anchors, tags and directives -/

/-- Read a name and what may stand behind an anchor. -/
def readAnchor (c : Cursor) : Option (String × Cursor) :=
  let name := (c.skip 1).rest.takeWhile isNameChar
  let c := c.skip (1 + name.length)
  let ends := endsWord c.peek? || c.peek?.any fun x => "?:,]\x7d%@`".toList.contains x
  if name.isEmpty || !ends then none else some (String.ofList name, c)

/-- Read a tag. A blank or the end of the line has to follow it, or a comma inside a flow
collection. -/
def readTag (flow : Bool) (c : Cursor) : Option (Token × Cursor) := do
  let (handle, suffix, c) ← readTagParts c
  if endsWord c.peek? || (flow && c.sees ',') then return (.tag handle suffix, c) else none

/-- Read a number of at most nine digits. -/
def readVersionNumber (c : Cursor) : Option (Nat × Cursor) :=
  let ds := c.rest.takeWhile Char.isDigit
  if ds.isEmpty || ds.length > 9 then none
  else some (Text.ofDigits ds, c.skip ds.length)

/-- Read a directive up to the end of its line. -/
def readDirective (c : Cursor) : Option (Token × Cursor) := do
  let name := (c.skip 1).rest.takeWhile isNameChar
  let c := c.skip (1 + name.length)
  if name.isEmpty || !endsWord c.peek? then none
  let c := c.skipWhile isBlank
  let (token, c) ← match String.ofList name with
    | "YAML" => do
      let (major, c) ← readVersionNumber c
      if !c.sees '.' then none
      let (minor, c) ← readVersionNumber (c.skip 1)
      pure (Token.versionDirective major minor, c)
    | "TAG" => do
      let (handle, c) ← readHandle c
      if handle.length > 1 && !handle.endsWith "!" then none
      if !c.seesBlank then none
      let c := c.skipWhile isBlank
      let (lead, c) ← readTagText true c
      if !endsWord c.peek? then none
      pure (Token.tagDirective handle lead, c)
    | _ => none
  let c := c.skipComment
  if endsLine c.peek? then return (token, c.skipLine) else none

end Transit.Yaml
