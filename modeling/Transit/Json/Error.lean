import Transit.Json.Printer
import Transit.Shape

/-!
# Why JSON is refused

A text can be refused for its data, for its grammar, or for ending too early; a value only for its
data.
-/

namespace Transit.Json

/-- What stands where something else was expected. -/
inductive Found
  | null
  | bool (b : Bool)
  | number (x : Number)
  | string (s : String)
  | sequence
  | map

namespace Found

/-- The description of what was found. -/
def describe : Found → String
  | null => "null"
  | bool b => "boolean " ++ ShapeError.named (toString b)
  | number (.integer n) => "integer " ++ ShapeError.named (toString n)
  | number (.real x) => "floating point " ++ ShapeError.named (renderReal x)
  | string s => "string " ++ Text.quote s
  | sequence => "sequence"
  | map => "map"

/-- A value as something that was found. -/
def ofValue : Value → Found
  | .null => null
  | .bool b => bool b
  | .number x => number x
  | .string s => string s
  | .array _ => sequence
  | .object _ => map

end Found

/-- Data that is not what was asked for. -/
abbrev Mismatch := ShapeError Found

/-- A breach of the grammar. -/
inductive GrammarError
  | expectedValue
  | expectedIdent
  | expectedColon
  | expectedListCommaOrEnd
  | expectedObjectCommaOrEnd
  | invalidNumber
  | numberOutOfRange
  | invalidEscape
  | loneSurrogate
  | unfinishedSurrogate
  | controlCharacter
  | keyMustBeString
  | trailingComma
  | trailingCharacters
  deriving DecidableEq, Repr

/-- The wording of the breach. -/
def GrammarError.message : GrammarError → String
  | expectedValue => "expected value"
  | expectedIdent => "expected ident"
  | expectedColon => "expected `:`"
  | expectedListCommaOrEnd => "expected `,` or `]`"
  | expectedObjectCommaOrEnd => "expected `,` or `\x7d`"
  | invalidNumber => "invalid number"
  | numberOutOfRange => "number out of range"
  | invalidEscape => "invalid escape"
  | loneSurrogate => "lone leading surrogate in hex escape"
  | unfinishedSurrogate => "unexpected end of hex escape"
  | controlCharacter => "control character (\\u0000-\\u001F) found while parsing a string"
  | keyMustBeString => "key must be a string"
  | trailingComma => "trailing comma"
  | trailingCharacters => "trailing characters"

/-- What was being read when the text ended. -/
inductive Unfinished
  | value
  | string
  | list
  | object
  deriving DecidableEq, Repr

/-- The wording for a text that ends too early. -/
def Unfinished.message : Unfinished → String
  | value => "EOF while parsing a value"
  | string => "EOF while parsing a string"
  | list => "EOF while parsing a list"
  | object => "EOF while parsing an object"

/-- Why a text is refused. -/
inductive ReadError
  | data (e : Mismatch)
  | grammar (e : GrammarError)
  | ended (inside : Unfinished)

namespace ReadError

/-- The wording of the refusal. -/
def message : ReadError → String
  | data e => e.message Found.describe
  | grammar e => e.message
  | ended u => u.message

/-- The kind of refusal. -/
def category : ReadError → String
  | data _ => "data"
  | grammar _ => "syntax"
  | ended _ => "eof"

end ReadError

end Transit.Json
