import Transit.Text.Digits
import Transit.Text.Unprintable

/-!
# Quoted text

`quote` writes a text between double quotes so that every character can be seen: the quote, the
backslash and four controls have short escapes, and what is unprintable is written by its code
point.
-/

namespace Transit.Text

/-- The form of a character inside quotes. -/
def quoteChar (c : Char) : String :=
  if c = '"' then "\\\""
  else if c = '\\' then "\\\\"
  else if c = '\n' then "\\n"
  else if c = '\r' then "\\r"
  else if c = '\t' then "\\t"
  else if c = '\x00' then "\\0"
  else if isUnprintable c then "\\u\x7b" ++ hex c.toNat ++ "\x7d"
  else c.toString

/-- The text between double quotes, with escapes. -/
def quote (s : String) : String :=
  s.toList.foldl (fun out c => out ++ quoteChar c) "\"" ++ "\""

end Transit.Text
