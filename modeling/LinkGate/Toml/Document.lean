import LinkGate.Toml.Values

/-!
Reading a TOML document: a sequence of lines, each of which is blank, gives a key a value in the
table opened last, or opens a table.
-/

namespace LinkGate.Toml

/-- A document as far as it has been read: its entries, and the path of the table that a header
opened last. -/
structure Progress where
  entries : Entries
  opened : List String

namespace Progress

def start : Progress := ⟨[], []⟩

/-- Gives a dotted key a value in the table opened last. -/
def assign (p : Progress) (path : List String) (key : String) (value : Value) : Option Progress :=
  (descend false .header p.entries p.opened fun kind entries =>
    Toml.assign kind entries path key value).map fun entries => { p with entries }

/-- Opens the table, or the next table of the array of tables, that a header names. -/
def openHeader (p : Progress) (double : Bool) (path : List String) (key : String) :
    Option Progress :=
  (descend false .header p.entries path fun _ entries =>
    if double then openItem key entries else openTable key entries).map fun entries =>
      ⟨entries, path ++ [key]⟩

end Progress

def readHeader (s : List Char) : Option ((Bool × List String) × List Char) :=
  match s with
  | '[' :: r =>
    match readKey r with
    | some (parts, ']' :: ']' :: t) => some ((true, parts), t)
    | _ => none
  | s =>
    match readKey s with
    | some (parts, ']' :: t) => some ((false, parts), t)
    | _ => none

def readPair (s : List Char) : Option ((List String × Value) × List Char) :=
  match readKey s with
  | some (parts, '=' :: r) =>
    (readValue (2 * r.length + 1) nestingLimit (skipSpace r)).map fun (value, t) =>
      ((parts, value), t)
  | _ => none

/-- Reads the first line of a text, which is not empty, and gives the text after its line end. -/
def readLine (p : Progress) (s : List Char) : Option (Progress × List Char) :=
  match skipSpace s with
  | '[' :: r => do
    let ((double, parts), r) ← readHeader r
    let r ← endLine? r
    let p ← p.openHeader double parts.dropLast (parts.getLast?.getD "")
    some (p, r)
  | r =>
    match endLine? r with
    | some t => some (p, t)
    | none => do
      let ((parts, value), r) ← readPair r
      let r ← endLine? r
      let p ← p.assign parts.dropLast (parts.getLast?.getD "") value
      some (p, r)

/-- Reads the lines of a text. Each takes a character at least, so the length of the text suffices
as fuel. -/
def readLines : (fuel : Nat) → Progress → List Char → Option Progress
  | _, p, [] => some p
  | 0, _, _ => none
  | n + 1, p, s =>
    match readLine p s with
    | none => none
    | some (p, r) => readLines n p r

/-- The text without the byte order mark that a document may start with. -/
def skipByteOrderMark : List Char → List Char
  | '\uFEFF' :: r => r
  | s => s

/-- The entries of a document, if the text is one. -/
def parse? (text : String) : Option Entries :=
  let s := skipByteOrderMark text.toList
  (readLines s.length .start s).map (·.entries)

end LinkGate.Toml
