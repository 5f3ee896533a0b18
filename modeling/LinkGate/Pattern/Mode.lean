import LinkGate.Text.Blank

/-!
How a pattern is read. Flags in a pattern change how the rest of a group is read: `x` lets blanks
and comments stand between the parts, and `u`, which is set at first, makes the pattern one of
characters and not of bytes. The other flags say how a pattern is matched, not how it is read.
-/

namespace LinkGate.Pattern

/-- How the parts of a pattern are read. -/
structure Mode where
  /-- Whether blanks and comments between the parts are passed over. -/
  spaced : Bool
  /-- Whether the parts stand for characters and not for bytes. -/
  unicode : Bool
  deriving DecidableEq, Repr

def Mode.initial : Mode := ⟨false, true⟩

/-! ### Flags -/

/-- Letters of flags in the order of the text, where a minus sign stands before those to be
cleared. -/
abbrev Flags := List Char

/-- The letters that are flags, and the minus sign. -/
def flagCharacters : List Char := ['i', 'm', 's', 'U', 'u', 'R', 'x', '-']

/-- Reads flags up to the colon or the parenthesis that ends them. None may stand twice, and after a
minus sign there has to be one. The flags read so far are given last one first. -/
def readFlags : Flags → List Char → Option (Flags × List Char)
  | _, [] => none
  | seen, c :: r =>
    if c = ':' ∨ c = ')' then
      if seen.head? = some '-' then none else some (seen.reverse, c :: r)
    else if flagCharacters.contains c && !seen.contains c then readFlags (c :: seen) r
    else none

/-- The state of the flag `letter`, which was `before` until `flags` came. -/
def Flags.state (flags : Flags) (letter : Char) (before : Bool) : Bool :=
  if flags.contains letter then (flags.takeWhile (· ≠ '-')).contains letter else before

/-- How the parts are read after flags. -/
def Mode.update (mode : Mode) (flags : Flags) : Mode :=
  ⟨flags.state 'x' mode.spaced, flags.state 'u' mode.unicode⟩

/-! ### Blanks -/

/-- The text without the blanks and the comments at its front. A comment goes from a number sign to
the end of the line. -/
def skipComments : (inComment : Bool) → List Char → List Char
  | _, [] => []
  | true, c :: r => skipComments (c ≠ '\n') r
  | false, c :: r =>
    if Text.isBlank c then skipComments false r
    else if c = '#' then skipComments true r
    else c :: r

/-- The text from the next part on. -/
def skip (mode : Mode) (s : List Char) : List Char :=
  if mode.spaced then skipComments false s else s

/-- The character that decides whether a hyphen in front of `s` stands for itself. Between the two,
blanks and one number sign do not count. -/
def peek? (mode : Mode) (s : List Char) : Option Char :=
  if mode.spaced then
    let next := match s.dropWhile Text.isBlank with
      | '#' :: r => r.dropWhile Text.isBlank
      | r => r
    next.head?.or s.head?
  else s.head?

end LinkGate.Pattern
