import LinkGate.Json.Numeral

/-!
JSON values as text on one line, without spaces. In a string the quote, the backslash and the
controls below U+0020 are escaped, and every other character stands for itself.
-/

namespace LinkGate.Json

/-- The letter of the two-character escape of `c`, if `c` has one. -/
def escapeLetter? (c : Char) : Option Char :=
  if c = '"' then some '"'
  else if c = '\\' then some '\\'
  else if c = '\x08' then some 'b'
  else if c = '\x0c' then some 'f'
  else if c = '\n' then some 'n'
  else if c = '\r' then some 'r'
  else if c = '\t' then some 't'
  else none

/-- The text that stands for `c` in a string. -/
def escapeChar (c : Char) : List Char :=
  match escapeLetter? c with
  | some l => ['\\', l]
  | none =>
    if c.toNat < 0x20 then
      ['\\', 'u', '0', '0', Nat.digitChar (c.toNat / 16), Nat.digitChar (c.toNat % 16)]
    else [c]

def renderString (s : List Char) : List Char :=
  '"' :: (s.flatMap escapeChar ++ ['"'])

def commaSeparated : List (List Char) → List Char
  | [] => []
  | [item] => item
  | item :: rest => item ++ ',' :: commaSeparated rest

mutual

def render : Json → List Char
  | null => "null".toList
  | boolean b => if b then "true".toList else "false".toList
  | number n => n.text.toList
  | string s => renderString s.toList
  | array items => '[' :: (commaSeparated (renderItems items) ++ [']'])
  | object members => '\x7b' :: (commaSeparated (renderMembers members) ++ ['\x7d'])

def renderItems : List Json → List (List Char)
  | [] => []
  | item :: rest => render item :: renderItems rest

def renderMembers : List (String × Json) → List (List Char)
  | [] => []
  | (name, value) :: rest =>
    (renderString name.toList ++ ':' :: render value) :: renderMembers rest

end

/-- The text of a value on one line. -/
def toLine (value : Json) : String :=
  String.ofList (render value)

end LinkGate.Json
