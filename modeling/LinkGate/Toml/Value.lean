import LinkGate.Number.Binary64

/-!
The values of a TOML document. A table keeps its keys in the order in which the document defines
them and remembers how it came to be, because that decides what may still be added to it.
-/

namespace LinkGate.Toml

/-- A day of the calendar. -/
structure Date where
  year : Nat
  month : Nat
  day : Nat
  deriving DecidableEq, Repr

/-- A time of day. The digits of the fraction are kept as they are written. -/
structure Time where
  hour : Nat
  minute : Nat
  second : Nat
  fraction : List Char
  deriving DecidableEq, Repr

/-- A distance from universal time in minutes. -/
structure Offset where
  minutes : Int
  deriving DecidableEq, Repr

/-- A date, a time of day, or both, with or without an offset. -/
structure Moment where
  date : Option Date
  time : Option Time
  offset : Option Offset
  deriving DecidableEq, Repr

/-- How a table came to be. -/
inductive TableKind
  /-- By a header of its own; the document itself counts as such a table. -/
  | header
  /-- By the header of a table below it. -/
  | implied
  /-- By a dotted key. -/
  | dotted
  /-- By an inline table, which is complete. -/
  | inline
  deriving DecidableEq, Repr

/-- Whether a table of this kind was never opened by itself. -/
def TableKind.isImplicit : TableKind → Bool
  | header | inline => false
  | implied | dotted => true

inductive Value
  | string (text : String)
  | integer (value : Int)
  | float (value : Number.Binary64)
  | boolean (value : Bool)
  | moment (value : Moment)
  | array (items : List Value)
  | table (kind : TableKind) (entries : List (String × Value))
  /-- An array of tables, each of them opened by a header in double brackets. -/
  | tables (items : List (List (String × Value)))

/-- The keys of a table with their values, in the order of the document. -/
abbrev Entries := List (String × Value)

namespace Entries

def get? (entries : Entries) (key : String) : Option Value :=
  entries.lookup key

def has (entries : Entries) (key : String) : Bool :=
  (entries.get? key).isSome

/-- Puts another value in the place of a key's value. -/
def replace (entries : Entries) (key : String) (value : Value) : Entries :=
  entries.map fun e => if e.1 = key then (key, value) else e

def erase (entries : Entries) (key : String) : Entries :=
  entries.filter (·.1 ≠ key)

end Entries

end LinkGate.Toml
