/-!
Blank characters and blank lines, after Unicode's `White_Space` property.
-/

namespace LinkGate.Text

/-- Whether `c` is one of the twenty-five characters with the property `White_Space`. -/
def isBlank (c : Char) : Bool :=
  let n := c.toNat
  (0x09 ≤ n && n ≤ 0x0D) || n == 0x20 || n == 0x85 || n == 0xA0 || n == 0x1680 ||
    (0x2000 ≤ n && n ≤ 0x200A) || n == 0x2028 || n == 0x2029 || n == 0x202F || n == 0x205F ||
    n == 0x3000

/-- Whether a line shows nothing: it is empty or holds blank characters only. -/
def isBlankLine (s : List Char) : Bool :=
  s.all isBlank

def trim (s : List Char) : List Char :=
  ((s.dropWhile isBlank).reverse.dropWhile isBlank).reverse

end LinkGate.Text
