/-!
What stands between the parts of a TOML document: spaces, comments and line ends.
-/

namespace LinkGate.Toml

/-- Whether `c` may stand between the parts of a line. -/
def isSpace (c : Char) : Bool :=
  c == ' ' || c == '\t'

/-- Whether `c` is not an ASCII control, tab apart. -/
def isTextChar (c : Char) : Bool :=
  c == '\t' || (0x20 ≤ c.toNat && c.toNat != 0x7F)

def skipSpace (s : List Char) : List Char :=
  s.dropWhile isSpace

/-- What follows the line end at the start of a text. A carriage return belongs to a line end only
right before a line feed. -/
def newline? : List Char → Option (List Char)
  | '\n' :: r => some r
  | '\r' :: '\n' :: r => some r
  | _ => none

def skipComment : List Char → List Char
  | '#' :: r => r.dropWhile isTextChar
  | s => s

/-- What follows the rest of a line that holds nothing but spaces and a comment. The last line of a
document needs no line end. -/
def endLine? (s : List Char) : Option (List Char) :=
  match skipComment (skipSpace s) with
  | [] => some []
  | s => newline? s

/-- The text without the spaces, comments and line ends at its start. A comment counts only with its
line end. Every round but the last takes a character, so the length of the text suffices as fuel. -/
def skipBlankFuel : (fuel : Nat) → List Char → List Char
  | 0, s => s
  | n + 1, s =>
    let s := skipSpace s
    match newline? (skipComment s) with
    | some r => skipBlankFuel n r
    | none => s

/-- The text without the spaces, comments and line ends at its start. -/
def skipBlank (s : List Char) : List Char :=
  skipBlankFuel s.length s

end LinkGate.Toml
