import LinkGate.Number.Digits
import LinkGate.Pattern.Mode

/-!
Atoms: the smallest parts of a pattern, which are single characters and escapes.
-/

namespace LinkGate.Pattern

/-- An atom, as far as it decides whether a pattern can be used. -/
inductive Atom
  /-- A character, which `isByte` says was given as the number of a byte. -/
  | literal (c : Char) (isByte : Bool)
  /-- Digits, blanks or characters of words, or all others. -/
  | shorthand (negated : Bool)
  /-- A category of characters, or all others. -/
  | category
  /-- Any character of a line. -/
  | any
  /-- The start or the end of a line or of the text. -/
  | edge
  /-- The start or the end of a word, or any other place. -/
  | wordEdge
  deriving DecidableEq, Repr

namespace Atom

/-- Whether an atom can be matched. The edges of words are found in bytes only. What is matched in
bytes must not take a character apart, and so is about ASCII or about whole characters. -/
def isUsable (mode : Mode) : Atom → Bool
  | literal c isByte => mode.unicode || !isByte || c.toNat < 0x80
  | shorthand negated => mode.unicode || !negated
  | category => mode.unicode
  | any => mode.unicode
  | edge => true
  | wordEdge => !mode.unicode

/-- Whether an atom can be a member of a class. Of bytes a class has ASCII only. -/
def isMember (mode : Mode) : Atom → Bool
  | literal c _ => mode.unicode || c.toNat < 0x80
  | shorthand negated => mode.unicode || !negated
  | category => mode.unicode
  | any => false
  | edge => false
  | wordEdge => false

/-- Whether two atoms are the ends of a range of characters. -/
def isRange (mode : Mode) : Atom → Atom → Bool
  | literal first b, literal last b' =>
    first ≤ last && isMember mode (literal first b) && isMember mode (literal last b')
  | _, _ => false

end Atom

/-- Reads a number of `left` hexadecimal digits after the digits of `value`. -/
def readHex (mode : Mode) : (left value : Nat) → List Char → Option (Nat × List Char)
  | 0, value, s => some (value, s)
  | left + 1, value, s =>
    match skip mode s with
    | c :: r =>
      if Number.isDigitIn 16 c then readHex mode left (16 * value + Number.digitValue c) r else none
    | [] => none

/-- How many hexadecimal digits of a character's number follow an escape letter. -/
def escapeDigits? (c : Char) : Option Nat :=
  [('x', 2), ('u', 4), ('U', 8)].lookup c

/-- The control characters that letters stand for. -/
def controls : List (Char × Char) :=
  [('a', '\x07'), ('f', '\x0c'), ('t', '\t'), ('n', '\n'), ('r', '\r'), ('v', '\x0b')]

/-- The character that an escaped one stands for. Apart from letters, digits and angle brackets all
ASCII characters stand for themselves. -/
def ofEscaped? (c : Char) : Option Char :=
  match controls.lookup c with
  | some d => some d
  | none => if c.toNat < 0x80 && !c.isAlphanum && c ≠ '<' && c ≠ '>' then some c else none

/-- The letters of the categories of characters. -/
def categories : List Char := ['c', 'l', 'm', 'n', 'p', 's', 'z']

/-- Reads an escape after its backslash. Names and numbers in braces do not occur, because a pattern
stands in braces itself and ends at the first closing one. -/
def readEscape (mode : Mode) : List Char → Option (Atom × List Char)
  | [] => none
  | c :: r =>
    match escapeDigits? c, ofEscaped? c with
    | some digits, _ => do
      let (value, r) ← readHex mode digits 0 r
      if value.isValidChar then some (.literal (Char.ofNat value) (c = 'x'), r) else none
    | none, some d => some (.literal d false, r)
    | none, none =>
      if c = 'd' ∨ c = 's' ∨ c = 'w' then some (.shorthand false, r)
      else if c = 'D' ∨ c = 'S' ∨ c = 'W' then some (.shorthand true, r)
      else if c = 'A' ∨ c = 'z' then some (.edge, r)
      else if c = 'b' ∨ c = 'B' ∨ c = '<' ∨ c = '>' then some (.wordEdge, r)
      else if c = 'p' ∨ c = 'P' then
        match skip mode r with
        | letter :: r => if categories.contains letter.toLower then some (.category, r) else none
        | [] => none
      else none

/-- Reads an atom that stands outside of a class. -/
def readAtom (mode : Mode) : List Char → Option (Atom × List Char)
  | [] => none
  | '\\' :: r => readEscape mode r
  | '.' :: r => some (.any, r)
  | '^' :: r | '$' :: r => some (.edge, r)
  | c :: r => some (.literal c false, r)

end LinkGate.Pattern
