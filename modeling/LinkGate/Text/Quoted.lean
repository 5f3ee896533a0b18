import LinkGate.Text.Unprintable

/-!
Quoted text, as messages show a text that came from outside: between double quotes, on one line,
and with every character that is not shown as it is written as an escape. Reading a quoted text
back gives the text, so two texts never share a quoted form.
-/

namespace LinkGate.Text.Quoted

/-- The brace that opens the number in an escape such as U+0007's. -/
def openBrace : Char := '\x7b'

/-- The brace that closes the number in an escape. -/
def closeBrace : Char := '\x7d'

/-- The escape that has a letter of its own, if `c` has one. -/
def letter? (c : Char) : Option Char :=
  if c = '"' then some '"'
  else if c = '\\' then some '\\'
  else if c = '\t' then some 't'
  else if c = '\n' then some 'n'
  else if c = '\r' then some 'r'
  else if c = '\x00' then some '0'
  else none

/-- The character that an escape letter stands for. -/
def ofLetter? (c : Char) : Option Char :=
  if c = '"' then some '"'
  else if c = '\\' then some '\\'
  else if c = 't' then some '\t'
  else if c = 'n' then some '\n'
  else if c = 'r' then some '\r'
  else if c = '0' then some '\x00'
  else none

/-- The text that stands for `c` between the quotes. -/
def encodeChar (c : Char) : List Char :=
  match letter? c with
  | some l => ['\\', l]
  | none =>
    if isUnprintable c then
      '\\' :: 'u' :: openBrace :: (Nat.toDigits 16 c.toNat ++ [closeBrace])
    else [c]

def encode (s : List Char) : List Char :=
  '"' :: (s.flatMap encodeChar ++ ['"'])

def hexValue? (c : Char) : Option Nat :=
  if '0' ≤ c ∧ c ≤ '9' then some (c.toNat - '0'.toNat)
  else if 'a' ≤ c ∧ c ≤ 'f' then some (c.toNat - 'a'.toNat + 10)
  else none

/-- What a reader of quoted text is in the middle of. -/
inductive Reading
  /-- Between two characters of the text. -/
  | plain
  /-- After a backslash. -/
  | escape
  /-- After a backslash and `u`. -/
  | number
  /-- Inside the braces, with the value of the digits so far. -/
  | digits (value : Nat)

/-- Reads the inside of a quoted text up to the closing quote, and gives the text and what follows
the quote. -/
def decodeFrom : Reading → List Char → Option (List Char × List Char)
  | _, [] => none
  | .plain, c :: r =>
    if c = '"' then some ([], r)
    else if c = '\\' then decodeFrom .escape r
    else (decodeFrom .plain r).map fun (s, t) => (c :: s, t)
  | .escape, c :: r =>
    if c = 'u' then decodeFrom .number r
    else match ofLetter? c with
      | some d => (decodeFrom .plain r).map fun (s, t) => (d :: s, t)
      | none => none
  | .number, c :: r => if c = openBrace then decodeFrom (.digits 0) r else none
  | .digits n, c :: r =>
    if c = closeBrace then (decodeFrom .plain r).map fun (s, t) => (Char.ofNat n :: s, t)
    else match hexValue? c with
      | some d => decodeFrom (.digits (16 * n + d)) r
      | none => none

/-- Reads a quoted text, and gives the text and what follows it. -/
def decode? : List Char → Option (List Char × List Char)
  | [] => none
  | c :: r => if c = '"' then decodeFrom .plain r else none

end LinkGate.Text.Quoted

namespace LinkGate.Text

/-- The quoted form of a text. -/
def quoted (s : String) : String :=
  String.ofList (Quoted.encode s.toList)

end LinkGate.Text
