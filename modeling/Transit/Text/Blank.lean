/-!
# White space

`isBlank` is the white space of the Unicode standard.
-/

namespace Transit.Text

/-- The white space characters. -/
def isBlank (c : Char) : Bool :=
  let n := c.toNat
  (0x9 ≤ n && n ≤ 0xD) || n == 0x20 || n == 0x85 || n == 0xA0 || n == 0x1680
    || (0x2000 ≤ n && n ≤ 0x200A) || n == 0x2028 || n == 0x2029 || n == 0x202F || n == 0x205F
    || n == 0x3000

/-- The text after its leading white space. -/
def trimStart (cs : List Char) : List Char := cs.dropWhile isBlank

end Transit.Text
