import LinkGate.Number.Digits
import LinkGate.Toml.Layout

/-!
The four kinds of TOML strings: basic and literal ones, each on one line or on many. The readers
take the text after the opening quotes and give the string with what follows the closing quotes.
-/

namespace LinkGate.Toml

/-- The character that an escape letter stands for. -/
def ofEscapeLetter? (c : Char) : Option Char :=
  if c = 'b' then some '\x08'
  else if c = 't' then some '\t'
  else if c = 'n' then some '\n'
  else if c = 'f' then some '\x0c'
  else if c = 'r' then some '\r'
  else if c = '"' then some '"'
  else if c = '\\' then some '\\'
  else none

/-- How many digits of a character's number follow an escape letter. -/
def escapeDigits? (c : Char) : Option Nat :=
  if c = 'u' then some 4 else if c = 'U' then some 8 else none

/-- The character with the given number, if it is the number of one. -/
def scalar? (n : Nat) : Option Char :=
  if n.isValidChar then some (Char.ofNat n) else none

/-- What a reader of a basic string is in the middle of. -/
inductive EscapeState
  /-- Between two characters of the string. -/
  | plain
  /-- After a backslash. -/
  | escape
  /-- In a character's number, with `left` digits to come. -/
  | digits (left : Nat) (value : Nat)

def prepend (c : Char) : List Char × List Char → List Char × List Char
  | (s, rest) => (c :: s, rest)

/-- Reads a basic string on one line. -/
def readBasic : EscapeState → List Char → Option (List Char × List Char)
  | _, [] => none
  | .plain, c :: r =>
    if c = '"' then some ([], r)
    else if c = '\\' then readBasic .escape r
    else if isTextChar c then (readBasic .plain r).map (prepend c)
    else none
  | .escape, c :: r =>
    match escapeDigits? c, ofEscapeLetter? c with
    | some n, _ => readBasic (.digits n 0) r
    | none, some d => (readBasic .plain r).map (prepend d)
    | none, none => none
  | .digits left value, c :: r =>
    if Number.isDigitIn 16 c then
      let value := 16 * value + Number.digitValue c
      if left ≤ 1 then
        match scalar? value with
        | some d => (readBasic .plain r).map (prepend d)
        | none => none
      else readBasic (.digits (left - 1) value) r
    else none

/-- Reads a literal string on one line. -/
def readLiteral : List Char → Option (List Char × List Char)
  | [] => none
  | c :: r =>
    if c = '\'' then some ([], r)
    else if isTextChar c then (readLiteral r).map (prepend c)
    else none

/-- What a reader of a string on many lines is in the middle of. -/
inductive LongState
  /-- After `quotes` quotes, which may turn out to be the closing ones. -/
  | plain (quotes : Nat)
  /-- After a backslash. -/
  | escape
  /-- In a character's number, with `left` digits to come. -/
  | digits (left : Nat) (value : Nat)
  /-- After a backslash and spaces, where only spaces and a line end may follow. -/
  | gap
  /-- After a backslash at the end of a line, where spaces and line ends are skipped. -/
  | fold

/-- Puts back quotes that turned out to belong to the string. -/
def prependQuotes (quote : Char) (n : Nat) :
    List Char × List Char → List Char × List Char
  | (s, rest) => (List.replicate n quote ++ s, rest)

/-- The string that ends at a run of quotes, if the run is long enough to close it. Up to two quotes
right before the closing three belong to the string. -/
def close? (quote : Char) (quotes : Nat) (rest : List Char) : Option (List Char × List Char) :=
  if 3 ≤ quotes then some (List.replicate (quotes - 3) quote, rest) else none

/-- Reads a basic string on many lines. A line end is read as a line feed. -/
def readLongBasic : LongState → List Char → Option (List Char × List Char)
  | .plain quotes, [] => close? '"' quotes []
  | _, [] => none
  | .plain quotes, '"' :: r =>
    if quotes = 4 then close? '"' 5 r else readLongBasic (.plain (quotes + 1)) r
  | .plain quotes, c :: r =>
    match close? '"' quotes (c :: r) with
    | some closed => some closed
    | none =>
      let put := Option.map (prependQuotes '"' quotes)
      if c = '\\' then put (readLongBasic .escape r)
      else if c = '\n' then put ((readLongBasic (.plain 0) r).map (prepend '\n'))
      else if c = '\r' then
        match r with
        | '\n' :: r => put ((readLongBasic (.plain 0) r).map (prepend '\n'))
        | _ => none
      else if isTextChar c then put ((readLongBasic (.plain 0) r).map (prepend c))
      else none
  | .escape, '\r' :: '\n' :: r => readLongBasic .fold r
  | .escape, c :: r =>
    if c = '\n' then readLongBasic .fold r
    else if isSpace c then readLongBasic .gap r
    else match escapeDigits? c, ofEscapeLetter? c with
      | some n, _ => readLongBasic (.digits n 0) r
      | none, some d => (readLongBasic (.plain 0) r).map (prepend d)
      | none, none => none
  | .digits left value, c :: r =>
    if Number.isDigitIn 16 c then
      let value := 16 * value + Number.digitValue c
      if left ≤ 1 then
        match scalar? value with
        | some d => (readLongBasic (.plain 0) r).map (prepend d)
        | none => none
      else readLongBasic (.digits (left - 1) value) r
    else none
  | .gap, '\r' :: '\n' :: r => readLongBasic .fold r
  | .gap, c :: r =>
    if c = '\n' then readLongBasic .fold r
    else if isSpace c then readLongBasic .gap r
    else none
  | .fold, '\r' :: '\n' :: r => readLongBasic .fold r
  | .fold, c :: r =>
    if c = '\n' ∨ isSpace c then readLongBasic .fold r
    else if c = '\\' then readLongBasic .escape r
    else if c = '"' then readLongBasic (.plain 1) r
    else if isTextChar c then (readLongBasic (.plain 0) r).map (prepend c)
    else none

/-- Reads a literal string on many lines after `quotes` quotes, which may turn out to be the closing
ones. A line end is read as a line feed. -/
def readLongLiteral : (quotes : Nat) → List Char → Option (List Char × List Char)
  | quotes, [] => close? '\'' quotes []
  | quotes, '\'' :: r =>
    if quotes = 4 then close? '\'' 5 r else readLongLiteral (quotes + 1) r
  | quotes, '\r' :: '\n' :: r =>
    match close? '\'' quotes ('\r' :: '\n' :: r) with
    | some closed => some closed
    | none => (readLongLiteral 0 r).map (prependQuotes '\'' quotes ∘ prepend '\n')
  | quotes, c :: r =>
    match close? '\'' quotes (c :: r) with
    | some closed => some closed
    | none =>
      if c = '\n' ∨ isTextChar c then
        (readLongLiteral 0 r).map (prependQuotes '\'' quotes ∘ prepend c)
      else none

/-- The text without the line end at its start, which the opening quotes of a string on many lines
may have after them. -/
def skipFirstNewline (s : List Char) : List Char :=
  (newline? s).getD s

/-- Reads a string of any kind with its opening quotes. -/
def readText : List Char → Option (List Char × List Char)
  | '"' :: '"' :: '"' :: r => readLongBasic (.plain 0) (skipFirstNewline r)
  | '"' :: r => readBasic .plain r
  | '\'' :: '\'' :: '\'' :: r => readLongLiteral 0 (skipFirstNewline r)
  | '\'' :: r => readLiteral r
  | _ => none

end LinkGate.Toml
