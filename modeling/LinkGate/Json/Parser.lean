import LinkGate.Json.Numeral

/-!
Reading JSON text. Each reader takes a value from the front of a text and gives it with the rest of
the text. A nested value is shorter than the text that holds it, so the length of the text bounds
the depth of the recursion.
-/

namespace LinkGate.Json

def isSpace (c : Char) : Bool :=
  c == ' ' || c == '\t' || c == '\n' || c == '\r'

def skipSpace (s : List Char) : List Char :=
  s.dropWhile isSpace

/-- The character that an escape letter stands for. -/
def ofEscapeLetter? (c : Char) : Option Char :=
  if c = '"' then some '"'
  else if c = '\\' then some '\\'
  else if c = '/' then some '/'
  else if c = 'b' then some '\x08'
  else if c = 'f' then some '\x0c'
  else if c = 'n' then some '\n'
  else if c = 'r' then some '\r'
  else if c = 't' then some '\t'
  else none

/-- What a reader of a string is in the middle of. The high half of a surrogate pair is kept until
its low half is read. -/
inductive StringState
  /-- Between two characters of the string. -/
  | plain
  /-- After a backslash. -/
  | escape
  /-- In the four digits of a number, of which `left` are still to come. -/
  | digits (high : Option Nat) (left : Nat) (value : Nat)
  /-- After the high half of a pair, where a backslash has to follow. -/
  | pairBackslash (high : Nat)
  /-- After the high half of a pair and a backslash, where a `u` has to follow. -/
  | pairLetter (high : Nat)

/-- What a complete four-digit number means. -/
inductive CodeUnit
  | char (c : Char)
  | high (value : Nat)

/-- The meaning of the four-digit number `value` after the high half `high?` of a pair, if it has
one. -/
def codeUnit? (high? : Option Nat) (value : Nat) : Option CodeUnit :=
  match high? with
  | some high =>
    if 0xDC00 ≤ value ∧ value < 0xE000 then
      some (.char (Char.ofNat (0x10000 + (high - 0xD800) * 0x400 + (value - 0xDC00))))
    else none
  | none =>
    if 0xD800 ≤ value ∧ value < 0xDC00 then some (.high value)
    else if 0xDC00 ≤ value ∧ value < 0xE000 then none
    else some (.char (Char.ofNat value))

/-- Reads the inside of a string up to the closing quote, and gives what follows the quote too. -/
def readString : StringState → List Char → Option (List Char × List Char)
  | _, [] => none
  | .plain, c :: r =>
    if c = '"' then some ([], r)
    else if c = '\\' then readString .escape r
    else if c.toNat < 0x20 then none
    else (readString .plain r).map fun (s, t) => (c :: s, t)
  | .escape, c :: r =>
    if c = 'u' then readString (.digits none 4 0) r
    else match ofEscapeLetter? c with
      | some d => (readString .plain r).map fun (s, t) => (d :: s, t)
      | none => none
  | .digits high left value, c :: r =>
    if Number.isDigitIn 16 c then
      let value := 16 * value + Number.digitValue c
      if left ≤ 1 then
        match codeUnit? high value with
        | some (.char d) => (readString .plain r).map fun (s, t) => (d :: s, t)
        | some (.high h) => readString (.pairBackslash h) r
        | none => none
      else readString (.digits high (left - 1) value) r
    else none
  | .pairBackslash high, c :: r => if c = '\\' then readString (.pairLetter high) r else none
  | .pairLetter high, c :: r => if c = 'u' then readString (.digits (some high) 4 0) r else none

/-- Reads the digits at the front of a text, of which there has to be one. -/
def readDigits (s : List Char) : Option (List Char × List Char) :=
  let digits := s.takeWhile Char.isDigit
  if digits.isEmpty then none else some (digits, s.dropWhile Char.isDigit)

/-- Reads the whole part of a number, which starts with a zero only if it is zero. -/
def readWhole : List Char → Option (List Char × List Char)
  | '0' :: r => some (['0'], r)
  | s => readDigits s

/-- Reads the fraction of a number, if there is one. -/
def readFraction : List Char → Option (Option (List Char) × List Char)
  | '.' :: r => (readDigits r).map fun (d, t) => (some d, t)
  | s => some (none, s)

/-- Reads a sign, which is minus, plus or absent. -/
def readSign : List Char → Bool × List Char
  | '-' :: r => (true, r)
  | '+' :: r => (false, r)
  | s => (false, s)

/-- Reads the exponent of a number, if there is one. -/
def readExponent : List Char → Option (Option Int × List Char)
  | c :: r =>
    if c = 'e' ∨ c = 'E' then
      let (negative, r) := readSign r
      (readDigits r).map fun (d, t) =>
        let n : Int := Number.ofDigits 10 d
        (some (if negative then -n else n), t)
    else some (none, c :: r)
  | [] => some (none, [])

def readNumber (s : List Char) : Option (Numeral × List Char) := do
  let (negative, s) := match s with
    | '-' :: r => (true, r)
    | s => (false, s)
  let (whole, s) ← readWhole s
  let (fraction, s) ← readFraction s
  let (exponent, s) ← readExponent s
  (Numeral.ofParts? negative whole fraction exponent).map (·, s)

def readWord (word : List Char) (value : Json) (s : List Char) : Option (Json × List Char) :=
  (word.isPrefixOf? s).map (value, ·)

mutual

/-- Reads a value after optional spaces. -/
def readValue : (fuel : Nat) → List Char → Option (Json × List Char)
  | 0, _ => none
  | n + 1, s =>
    match skipSpace s with
    | '"' :: r => (readString .plain r).map fun (s, t) => (string (String.ofList s), t)
    | '[' :: r =>
      match skipSpace r with
      | ']' :: t => some (array [], t)
      | r => (readItems n r).map fun (items, t) => (array items, t)
    | '\x7b' :: r =>
      match skipSpace r with
      | '\x7d' :: t => some (object [], t)
      | r => (readMembers n r).map fun (members, t) => (object members, t)
    | 'n' :: r => readWord "ull".toList null r
    | 't' :: r => readWord "rue".toList (boolean true) r
    | 'f' :: r => readWord "alse".toList (boolean false) r
    | s => (readNumber s).map fun (x, t) => (number x, t)

/-- Reads the items of an array, of which there is one, and the bracket after them. -/
def readItems : (fuel : Nat) → List Char → Option (List Json × List Char)
  | 0, _ => none
  | n + 1, s =>
    match readValue n s with
    | none => none
    | some (item, r) =>
      match skipSpace r with
      | ',' :: r => (readItems n r).map fun (items, t) => (item :: items, t)
      | ']' :: t => some ([item], t)
      | _ => none

/-- Reads the members of an object, of which there is one, and the brace after them. -/
def readMembers : (fuel : Nat) → List Char → Option (List (String × Json) × List Char)
  | 0, _ => none
  | n + 1, s =>
    match skipSpace s with
    | '"' :: r =>
      match readString .plain r with
      | none => none
      | some (name, r) =>
        match skipSpace r with
        | ':' :: r =>
          match readValue n r with
          | none => none
          | some (value, r) =>
            let member := (String.ofList name, value)
            match skipSpace r with
            | ',' :: r => (readMembers n r).map fun (members, t) => (member :: members, t)
            | '\x7d' :: t => some ([member], t)
            | _ => none
        | _ => none
    | _ => none

end

/-- The value that a text holds, with nothing but spaces around it. -/
def parse? (text : String) : Option Json :=
  match readValue (2 * text.length + 2) text.toList with
  | some (value, rest) => if (skipSpace rest).isEmpty then some value else none
  | none => none

end LinkGate.Json
