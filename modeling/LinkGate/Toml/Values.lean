import LinkGate.Toml.Keys
import LinkGate.Toml.Moments
import LinkGate.Toml.Numbers
import LinkGate.Toml.Tables

/-!
Reading a TOML value. Arrays may spread over lines, inline tables may not. Every value of an array
and every key of an inline table takes characters, so the length of the text bounds the recursion;
how deep values may be nested is a limit of its own.
-/

namespace LinkGate.Toml

def readWord (word : List Char) (value : Value) (s : List Char) : Option (Value × List Char) :=
  (word.isPrefixOf? s).map (value, ·)

def readScalar (s : List Char) : Option (Value × List Char) :=
  match readMoment s with
  | some (m, r) => some (.moment m, r)
  | none =>
    match readFloat s with
    | some (x, r) => some (.float x, r)
    | none => (readInteger s).map fun (n, r) => (.integer n, r)

mutual

/-- Reads a value in which arrays and inline tables are nested at most `depth` deep. -/
def readValue : (fuel depth : Nat) → List Char → Option (Value × List Char)
  | 0, _, _ => none
  | n + 1, depth, s =>
    match s with
    | '[' :: r =>
      match depth with
      | 0 => none
      | depth + 1 => (readItems n depth r).map fun (items, t) => (.array items, t)
    | '\x7b' :: r =>
      match depth with
      | 0 => none
      | depth + 1 =>
        match skipSpace r with
        | '\x7d' :: t => some (.table .inline [], t)
        | r => (readPairs n depth [] r).map fun (entries, t) => (.table .inline entries, t)
    | '"' :: _ | '\'' :: _ => (readText s).map fun (t, r) => (.string (String.ofList t), r)
    | 't' :: r => readWord "rue".toList (.boolean true) r
    | 'f' :: r => readWord "alse".toList (.boolean false) r
    | s => readScalar s

/-- Reads the items of an array and its closing bracket, before which a comma may stand. -/
def readItems : (fuel depth : Nat) → List Char → Option (List Value × List Char)
  | 0, _, _ => none
  | n + 1, depth, s =>
    match skipBlank s with
    | ']' :: t => some ([], t)
    | s =>
      match readValue n depth s with
      | none => none
      | some (item, r) =>
        match skipBlank r with
        | ',' :: r => (readItems n depth r).map fun (items, t) => (item :: items, t)
        | ']' :: t => some ([item], t)
        | _ => none

/-- Reads the keys of an inline table with their values, of which there is one, adds them to
`entries`, and reads the closing brace. -/
def readPairs : (fuel depth : Nat) → Entries → List Char → Option (Entries × List Char)
  | 0, _, _, _ => none
  | n + 1, depth, entries, s =>
    match readKey s with
    | some (parts, '=' :: r) =>
      match readValue n depth (skipSpace r) with
      | none => none
      | some (value, r) =>
        match assign .header entries parts.dropLast (parts.getLast?.getD "") value with
        | none => none
        | some entries =>
          match skipSpace r with
          | ',' :: r => readPairs n depth entries r
          | '\x7d' :: t => some (entries, t)
          | _ => none
    | _ => none

end

end LinkGate.Toml
