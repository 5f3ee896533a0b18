import LinkGate.Toml.Value

/-!
What may be added to a table. A key is given a value once. A header opens a table once, and an
array of tables any number of times. A dotted key may go through tables that were made by dotted
keys or implied by headers, but the table that it adds to must have been made by a dotted key.
-/

namespace LinkGate.Toml

/-- Goes down from a table along a path, makes the tables that are missing, and changes the table at
the end. An array of tables is entered at its last table; an inline table is complete and is not
entered. -/
def descend (dotted : Bool) (kind : TableKind) (entries : Entries) :
    (path : List String) → (change : TableKind → Entries → Option Entries) → Option Entries
  | [], change => change kind entries
  | key :: path, change =>
    match entries.get? key with
    | none =>
      let made := if dotted then TableKind.dotted else .implied
      (descend dotted made [] path change).map fun es => entries ++ [(key, .table made es)]
    | some (.table .inline _) => none
    | some (.table k es) =>
      if dotted && !k.isImplicit then none
      else (descend dotted k es path change).map fun es => entries.replace key (.table k es)
    | some (.tables items) =>
      match items.getLast? with
      | none => none
      | some last =>
        (descend dotted .header last path change).map fun es =>
          entries.replace key (.tables (items.dropLast ++ [es]))
    | some _ => none

/-- Gives a key its first value. -/
def define (key : String) (value : Value) (entries : Entries) : Option Entries :=
  if entries.has key then none else some (entries ++ [(key, value)])

/-- Gives a dotted key its first value in a table. -/
def assign (kind : TableKind) (entries : Entries) (path : List String) (key : String)
    (value : Value) : Option Entries :=
  descend true kind entries path fun k es =>
    if (k == .dotted) == path.isEmpty then none else define key value es

/-- Opens a table. A table that the headers of other tables imply is opened in its place at the end
of the table that holds it. -/
def openTable (key : String) (entries : Entries) : Option Entries :=
  match entries.get? key with
  | none => some (entries ++ [(key, .table .header [])])
  | some (.table .implied es) => some (entries.erase key ++ [(key, .table .header es)])
  | some _ => none

/-- Opens one more table in an array of tables. -/
def openItem (key : String) (entries : Entries) : Option Entries :=
  match entries.get? key with
  | none => some (entries ++ [(key, .tables [[]])])
  | some (.tables items) => some (entries.replace key (.tables (items ++ [[]])))
  | some _ => none

end LinkGate.Toml
