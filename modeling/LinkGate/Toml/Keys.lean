import LinkGate.Toml.Strings

/-!
TOML keys: bare words and strings on one line, joined by points.
-/

namespace LinkGate.Toml

def isBareChar (c : Char) : Bool :=
  c.isAlphanum || c == '-' || c == '_'

def readKeyPart : List Char → Option (String × List Char)
  | '"' :: r => (readBasic .plain r).map fun (s, t) => (String.ofList s, t)
  | '\'' :: r => (readLiteral r).map fun (s, t) => (String.ofList s, t)
  | s =>
    let word := s.takeWhile isBareChar
    if word.isEmpty then none else some (String.ofList word, s.dropWhile isBareChar)

/-- A key of more parts than this is refused, and so is a value nested deeper than this. -/
def nestingLimit : Nat := 79

/-- Reads a key of at most `limit` parts with the spaces around them. -/
def readKeyParts : (limit : Nat) → List Char → Option (List String × List Char)
  | 0, _ => none
  | n + 1, s =>
    match readKeyPart (skipSpace s) with
    | none => none
    | some (part, r) =>
      match skipSpace r with
      | '.' :: r => (readKeyParts n r).map fun (parts, t) => (part :: parts, t)
      | r => some ([part], r)

/-- Reads a key with the spaces around it. -/
def readKey (s : List Char) : Option (List String × List Char) :=
  readKeyParts nestingLimit s

end LinkGate.Toml
